import MitosSession.Ipc.Reading

set_option autoImplicit false

/-! # The client

`ipc/client.rs`: `IpcClient::call` writes one request and reads messages until one is a response;
events are skipped. `calls_in_order` says what that comes to over many calls: whatever the server
sends, the `k`-th call returns the `k`-th response in it, and the first call for which there is no
response left fails. -/

namespace MitosSession

/-- The response in a message. -/
def Message.toResponse : Message → Option Response
  | .response r => some r
  | .event _ => none

/-- The loop of `IpcClient::call`. -/
def awaitResponse (codec : Codec Message) (reader : ByteReader) : Result Response × ByteReader :=
  match _h : readMessage codec reader with
  | (.error e, reader) => (.error e, reader)
  | (.ok (.response response), reader) => (.ok response, reader)
  | (.ok (.event _), reader) => awaitResponse codec reader
termination_by reader.bytes.length
decreasing_by exact readMessage_ok_length _h

/-- `ipc::IpcClient`: the two directions of its stream. -/
structure IpcClient (σ : Type) where
  reader : ByteReader
  writer : σ

section Client

variable {σ : Type}

/-- `IpcClient::call`. -/
def IpcClient.call (sink : Sink σ) (requests : Codec Request) (messages : Codec Message)
    (self : IpcClient σ) (request : Request) : Result Response × IpcClient σ :=
  match writeMessage sink requests request self.writer with
  | (.error e, writer) => (.error e, { self with writer })
  | (.ok (), writer) =>
      let (answer, reader) := awaitResponse messages self.reader
      (answer, { reader, writer })

/-- One call after the other, whatever they return. -/
def IpcClient.calls (sink : Sink σ) (requests : Codec Request) (messages : Codec Message) :
    IpcClient σ → List Request → List (Result Response) × IpcClient σ
  | self, [] => ([], self)
  | self, request :: rest =>
      let (answer, self) := self.call sink requests messages request
      let (answers, self) := calls sink requests messages self rest
      (answer :: answers, self)

/-! ## Waiting for a response -/

/-- The responses among the messages that can be read. -/
def responses (codec : Codec Message) (reader : ByteReader) : List Response :=
  (readable codec reader).filterMap Message.toResponse

variable {messages : Codec Message} {reader reader' : ByteReader}

theorem responses_of_error {e : SessionError}
    (h : readMessage messages reader = (.error e, reader')) :
    responses messages reader = [] := by
  rw [responses, readable_of_error h, List.filterMap_nil]

theorem responses_of_response {response : Response}
    (h : readMessage messages reader = (.ok (.response response), reader')) :
    responses messages reader = response :: responses messages reader' := by
  rw [responses, readable_of_ok h]
  rfl

theorem responses_of_event {event : Event}
    (h : readMessage messages reader = (.ok (.event event), reader')) :
    responses messages reader = responses messages reader' := by
  rw [responses, readable_of_ok h]
  rfl

/-- The first response is returned, and those after it stay to be read. -/
theorem awaitResponse_cons {response : Response} {rest : List Response}
    (h : responses messages reader = response :: rest) :
    ∃ reader', awaitResponse messages reader = (.ok response, reader')
      ∧ responses messages reader' = rest := by
  fun_induction awaitResponse messages reader with
  | case1 reader e reader' hread =>
      rw [responses_of_error hread] at h
      cases h
  | case2 reader response' reader' hread =>
      rw [responses_of_response hread] at h
      obtain ⟨rfl, hrest⟩ := List.cons.inj h
      exact ⟨reader', rfl, hrest⟩
  | case3 reader event reader' hread ih =>
      rw [responses_of_event hread] at h
      exact ih h

/-- Where there is none, waiting fails. -/
theorem awaitResponse_nil (h : responses messages reader = []) :
    ∃ e, (awaitResponse messages reader).1 = .error e := by
  fun_induction awaitResponse messages reader with
  | case1 reader e reader' hread => exact ⟨e, rfl⟩
  | case2 reader response' reader' hread =>
      rw [responses_of_response hread] at h
      cases h
  | case3 reader event reader' hread ih =>
      rw [responses_of_event hread] at h
      exact ih h

/-! ## Many calls -/

section Calls

variable {sink : Sink σ} {requests : Codec Request} {w w' : σ} {sent : List Request}

theorem calls_writer (hwrites : Writes sink requests w sent w') :
    (IpcClient.calls sink requests messages { reader, writer := w } sent).2.writer = w' := by
  induction hwrites generalizing reader with
  | nil => rfl
  | cons hwrite hrest ih =>
      simp only [IpcClient.calls, IpcClient.call, hwrite]
      exact ih

/-- A call for which there is a response returns it. -/
theorem calls_answer (hwrites : Writes sink requests w sent w') {k : ℕ} {response : Response}
    (hk : k < sent.length) (h : (responses messages reader)[k]? = some response) :
    (IpcClient.calls sink requests messages { reader, writer := w } sent).1[k]?
      = some (.ok response) := by
  induction hwrites generalizing reader k with
  | nil => cases hk
  | cons hwrite hrest ih =>
      simp only [IpcClient.calls, IpcClient.call, hwrite]
      cases hresponses : responses messages reader with
      | nil => simp [hresponses] at h
      | cons first later =>
          obtain ⟨reader', hawait, hlater⟩ := awaitResponse_cons hresponses
          rw [hresponses] at h
          simp only [hawait]
          cases k with
          | zero =>
              obtain rfl := Option.some.inj h
              rfl
          | succ k => exact ih (Nat.lt_of_succ_lt_succ hk) (by rwa [hlater])

/-- The first call for which there is none fails. -/
theorem calls_error (hwrites : Writes sink requests w sent w')
    (hlt : (responses messages reader).length < sent.length) :
    ∃ e, (IpcClient.calls sink requests messages { reader, writer := w } sent).1[
      (responses messages reader).length]? = some (.error e) := by
  induction hwrites generalizing reader with
  | nil => cases hlt
  | cons hwrite hrest ih =>
      simp only [IpcClient.calls, IpcClient.call, hwrite]
      cases hresponses : responses messages reader with
      | nil =>
          obtain ⟨e, he⟩ := awaitResponse_nil hresponses
          exact ⟨e, by simp [he]⟩
      | cons response later =>
          obtain ⟨reader', hawait, hlater⟩ := awaitResponse_cons hresponses
          rw [hresponses] at hlt
          obtain ⟨e, he⟩ := @ih reader' (by rw [hlater]; exact Nat.lt_of_succ_lt_succ hlt)
          rw [hlater] at he
          simp only [hawait]
          exact ⟨e, he⟩

theorem calls_length (client : IpcClient σ) (sent : List Request) :
    (IpcClient.calls sink requests messages client sent).1.length = sent.length := by
  induction sent generalizing client with
  | nil => rfl
  | cons request rest ih => exact congrArg Nat.succ (ih _)

/-- **The `k`-th call returns the `k`-th response.** Whatever the server sends on a connection, in
    whatever way its events come between: the calls write their requests in order and return the
    responses among the messages that can be read, in order; the first call for which none is left
    returns an error. -/
theorem calls_in_order (hwrites : Writes sink requests w sent w') :
    let done := IpcClient.calls sink requests messages { reader, writer := w } sent
    done.2.writer = w'
      ∧ done.1.take (responses messages reader).length
        = ((responses messages reader).take sent.length).map .ok
      ∧ ((responses messages reader).length < sent.length →
        ∃ e, done.1[(responses messages reader).length]? = some (.error e)) := by
  refine ⟨calls_writer hwrites, List.ext_getElem? fun k => ?_, calls_error hwrites⟩
  rw [List.getElem?_take, List.getElem?_map, List.getElem?_take]
  by_cases hsent : k < sent.length
  · rw [if_pos hsent]
    split
    · rename_i hk
      rw [List.getElem?_eq_getElem hk]
      exact calls_answer hwrites hsent (List.getElem?_eq_getElem hk)
    · rename_i hk
      rw [List.getElem?_eq_none (Nat.le_of_not_lt hk)]
      rfl
  · rw [if_neg hsent, List.getElem?_eq_none (by rw [calls_length]; exact Nat.le_of_not_lt hsent)]
    split <;> rfl

end Calls

end Client

/-- `bincode`'s layout of `Response::Ok` and `Event::PrepareForSleep`, the only messages this codec
    takes: the index of the message's variant and that of its content. -/
def Codec.bare : Codec Message where
  serialize
    | .response .ok => .ok (leBytes 4 0 ++ leBytes 4 0)
    | .event .prepareForSleep => .ok (leBytes 4 1 ++ leBytes 4 5)
    | _ => .error "has a content of its own"
  deserialize bytes :=
    match takeExact 4 bytes with
    | none => .error "unexpected end of file"
    | some (kind, bytes) =>
        match takeExact 4 bytes with
        | none => .error "unexpected end of file"
        | some (variant, _) =>
            if ofLeBytes kind = 0 ∧ ofLeBytes variant = 0 then .ok (.response .ok)
            else if ofLeBytes kind = 1 ∧ ofLeBytes variant = 5 then .ok (.event .prepareForSleep)
            else .error "not a bare message"

theorem Codec.bare_lawful : Codec.bare.Lawful := by
  intro msg payload h
  cases msg with
  | response r =>
      cases r with
      | ok =>
          obtain rfl := Except.ok.inj h
          rfl
      | _ => cases h
  | event e =>
      cases e with
      | prepareForSleep =>
          obtain rfl := Except.ok.inj h
          rfl
      | _ => cases h

/-- A sleep announcement, and then the answer. -/
private def announced : ByteReader :=
  ⟨frame (leBytes 4 1 ++ leBytes 4 5) ++ frame (leBytes 4 0 ++ leBytes 4 0), none⟩

/-- The call skips the announcement. -/
theorem call_skips_event :
    ∃ w, Writes Sink.buffer Codec.reportActivity [] [.reportActivity "seat0"] w
      ∧ (IpcClient.calls Sink.buffer Codec.reportActivity Codec.bare
          { reader := announced, writer := [] } [.reportActivity "seat0"]).1.take 1
        = [.ok .ok] := by
  have hsize : "seat0".utf8ByteSize = 5 := by decide
  obtain ⟨w, hwrites⟩ := @writes_reportActivity "seat0" (by rw [hsize]; decide)
  have hresponses : responses Codec.bare announced = [.ok] := by decide
  have hdone := (@calls_in_order _ Codec.bare announced _ _ _ _ _ hwrites).2.1
  rw [hresponses] at hdone
  exact ⟨w, hwrites, hdone⟩

end MitosSession
