import MitosSession.Ipc.Client
import MitosSession.Server.Calls

set_option autoImplicit false

/-! # Calls from end to end

`IpcClient` on one end of a connection and the server on the other. `Server.calls_answered` puts
together what the two ends, the threads and the daemon do: what a call returns is the response the
daemon gave to the request of this very call, although requests, responses and events are only
bytes on one stream, and nothing in a response says what it answers. -/

namespace MitosSession

/-! ## Both ends of a connection -/

/-- The client's socket is the other end of the connection: the server reads what the client's
    calls write, the client reads what the connection's writer has written and then whatever else
    comes, and neither writes a message that is too long for the reader. -/
structure Connects {σ : Type} (sink : Sink σ) (requests : Codec Request) (messages : Codec Message)
    (client : IpcClient σ) (sent : List Request) (h : Handler) (written : List Message) :
    Prop where
  writes : ∃ w, Writes sink requests client.writer sent w
    ∧ sink.delivered w = sink.delivered client.writer ++ h.stream.bytes
  fits : ∀ request ∈ sent, ∀ payload, requests.serialize request = .ok payload →
    payload.length ≤ maxMessageLen
  reads : ∃ payloads rest, Encodes messages written payloads
    ∧ (∀ payload ∈ payloads, payload.length ≤ maxMessageLen)
    ∧ client.reader.bytes = payloads.flatMap frame ++ rest

section Connects

variable {σ : Type} {sink : Sink σ} {requests : Codec Request} {messages : Codec Message}
  {client : IpcClient σ} {sent : List Request} {h : Handler} {written : List Message}

/-- The server can read exactly the requests of the calls. -/
theorem Connects.readable (hconnects : Connects sink requests messages client sent h written)
    (hsink : sink.Lawful) (hrequests : requests.Lawful) : readable requests h.stream = sent := by
  obtain ⟨w, hwrites, hstream⟩ := hconnects.writes
  obtain ⟨payloads, hencodes, -, hdelivered⟩ := hwrites.encodes hsink
  rw [hdelivered, List.append_cancel_left_eq] at hstream
  have hread : MitosSession.readable requests ⟨payloads.flatMap frame ++ [], h.stream.failure⟩
      = sent ++ MitosSession.readable requests ⟨[], h.stream.failure⟩ :=
    readable_frames hrequests hencodes (hencodes.forall_payload_iff.1 hconnects.fits)
  rw [List.append_nil, hstream] at hread
  exact hread.trans (List.append_nil sent)

/-- The client can read the responses that were written. -/
theorem Connects.responses (hconnects : Connects sink requests messages client sent h written)
    (hmessages : messages.Lawful) :
    ∃ more, responses messages client.reader = written.filterMap Message.toResponse ++ more := by
  obtain ⟨payloads, rest, hencodes, hsize, hbytes⟩ := hconnects.reads
  have hread : MitosSession.readable messages ⟨payloads.flatMap frame ++ rest,
      client.reader.failure⟩ = written ++ MitosSession.readable messages ⟨rest, _⟩ :=
    readable_frames hmessages hencodes hsize
  rw [← hbytes] at hread
  exact ⟨_, (congrArg (List.filterMap Message.toResponse) hread).trans List.filterMap_append⟩

end Connects

/-! ## Commands of one connection -/

/-- The command in a message, if it is one from `c`. -/
def ManagerMessage.commandFrom (c : ConnId) : ManagerMessage → Option ManagerCommand
  | .command cmd => if cmd.connId = c then some cmd else none
  | _ => none

theorem ManagerMessage.isSome_commandFrom (c : ConnId) (message : ManagerMessage) :
    (message.commandFrom c).isSome = message.isCommandFrom c := by
  cases message with
  | command cmd =>
      by_cases hc : cmd.connId = c <;> simp [commandFrom, isCommandFrom, hc]
  | _ => rfl

theorem filterMap_commandFrom_lettersOf (c : ConnId) (messages : List ManagerMessage) :
    (lettersOf ManagerMessage.connId c messages).filterMap (ManagerMessage.commandFrom c)
      = messages.filterMap (ManagerMessage.commandFrom c) := by
  unfold lettersOf
  rw [List.filterMap_filter]
  refine List.filterMap_congr fun message _ => ?_
  cases message with
  | command cmd =>
      by_cases hc : cmd.connId = c <;> simp [ManagerMessage.connId, ManagerMessage.commandFrom, hc]
  | _ => simp [ManagerMessage.commandFrom]

theorem filterMap_commandFrom_dialogue (c : ConnId) (peer : PeerCred) (requests : List Request) :
    (dialogue c peer requests ++ [ManagerMessage.disconnected c]).filterMap
        (ManagerMessage.commandFrom c)
      = requests.map fun request => { connId := c, peer, request } := by
  rw [List.filterMap_append, dialogue, List.filterMap_cons_none rfl, List.filterMap_map]
  have hall : ∀ request, (ManagerMessage.commandFrom c ∘ fun request =>
      ManagerMessage.command { connId := c, peer, request }) request
        = some { connId := c, peer, request } := fun request => if_pos rfl
  rw [funext hall]
  simp [ManagerMessage.commandFrom]

/-- What has a place in a beginning of a list has the same place in the list. -/
theorem getElem?_of_begins {α : Type} {l l' : List α} {k : ℕ} {a : α} (h : l <+: l')
    (hk : l[k]? = some a) : l'[k]? = some a := by
  obtain ⟨rest, rfl⟩ := h
  rw [List.getElem?_append_left (List.getElem?_eq_some_iff.1 hk).1, hk]

theorem length_filterMap_toResponse (messages : List Message) :
    (messages.filterMap Message.toResponse).length = messages.countP Message.isResponse := by
  rw [List.length_filterMap_eq_countP]
  refine List.countP_congr fun message _ => ?_
  cases message <;> simp [Message.toResponse, Message.isResponse]

namespace Server

variable {codec : Codec Request} {srv₀ srv : Server}
  {tr : List (Transition Server ServerLabel)} {c : ConnId}

/-- The commands of a connection the daemon has taken. -/
def commands (c : ConnId) (tr : List (Transition Server ServerLabel)) : List ManagerCommand :=
  (taken tr).filterMap (ManagerMessage.commandFrom c)

theorem commands_length (c : ConnId) (tr : List (Transition Server ServerLabel)) :
    (commands c tr).length = handled c tr := by
  rw [commands, handled, List.length_filterMap_eq_countP]
  exact List.countP_congr fun message _ => by rw [ManagerMessage.isSome_commandFrom]

theorem commands_append (tr₁ tr₂ : List (Transition Server ServerLabel)) :
    commands c (tr₁ ++ tr₂) = commands c tr₁ ++ commands c tr₂ := by
  simp only [commands, taken, List.filterMap_append]

/-- They are the first of the requests its peer sends. -/
theorem commands_begin (hinit : Initial srv₀) (hrun : Run (Step codec) srv₀ tr srv)
    (hids : (spent tr).length ≤ u64Size) {h : Handler} (hh : h ∈ srv.handlers) :
    commands h.connId tr <+: (readable codec h.stream).map fun request =>
      { connId := h.connId, peer := h.peer, request } := by
  have horderly := orderly hinit hrun hids
  obtain ⟨requests, hspeaks⟩ := horderly.speaks h hh
  have hbegins := (said_begins hspeaks).1.filterMap (ManagerMessage.commandFrom h.connId)
  rw [filterMap_commandFrom_lettersOf, filterMap_commandFrom_dialogue, horderly.queue,
    List.filterMap_append] at hbegins
  exact (List.prefix_append _ _).trans hbegins

/-- A step that takes a request of `c` takes one command of it. -/
theorem exists_command_of_takesFrom {x : Transition Server ServerLabel}
    (h : takesFrom c x.label = true) :
    ∃ cmd, takenBy x.label = some (.command cmd) ∧ commands c [x] = [cmd] := by
  unfold takesFrom at h
  cases htaken : takenBy x.label with
  | none => simp [htaken] at h
  | some message =>
      rw [htaken] at h
      cases message with
      | command cmd =>
          have hc : cmd.connId = c := by simpa [ManagerMessage.isCommandFrom] using h
          refine ⟨cmd, rfl, ?_⟩
          simp [commands, taken, htaken, ManagerMessage.commandFrom, hc]
      | _ => cases h

/-! ## Responses to one connection -/

/-- The responses put into the outbox of `c` along a run. -/
def replies (c : ConnId) (tr : List (Transition Server ServerLabel)) : List Response :=
  (queued c tr).filterMap Message.toResponse

theorem replies_length (c : ConnId) (tr : List (Transition Server ServerLabel)) :
    (replies c tr).length = answered c tr :=
  length_filterMap_toResponse _

theorem replies_eq (c : ConnId) (tr : List (Transition Server ServerLabel)) :
    replies c tr
      = tr.flatMap fun x => (queuedBy c x.label).filterMap Message.toResponse := by
  rw [replies, queued, List.filterMap_flatMap]

theorem handled_eq_countP (c : ConnId) (tr : List (Transition Server ServerLabel)) :
    handled c tr = tr.countP fun x => takesFrom c x.label := by
  induction tr using List.reverseRecOn with
  | nil => rfl
  | append_singleton rest x ih =>
      rw [handled_snoc, ih, List.countP_append, List.countP_singleton]

/-! ## Calls -/

/-- The daemon took `request` as number `k` of the connection's, and this is the one response it
    put into the connection's outbox from then on, before it took another. -/
def Answers (c : ConnId) (peer : PeerCred) (tr : List (Transition Server ServerLabel)) (k : ℕ)
    (request : Request) (response : Response) : Prop :=
  ∃ tr₁ x tr₂ tr₃, tr = tr₁ ++ x :: (tr₂ ++ tr₃) ∧ handled c tr₁ = k
    ∧ takenBy x.label = some (.command { connId := c, peer, request })
    ∧ (∀ y ∈ tr₂, takesFrom c y.label = false) ∧ replies c (x :: tr₂) = [response]

/-- The `k`-th reply to a peer that waits answers its `k`-th request. -/
theorem replies_answer (hinit : Initial srv₀) (hrun : Run (Step codec) srv₀ tr srv)
    (hids : (spent tr).length ≤ u64Size) {h : Handler} (hh : h ∈ srv.handlers)
    (hseq : Sequential h.connId tr) {k : ℕ} {response : Response}
    (hk : (replies h.connId tr)[k]? = some response) :
    ∃ request, (readable codec h.stream)[k]? = some request
      ∧ Answers h.connId h.peer tr k request response := by
  have hle : (replies h.connId tr).length ≤ tr.countP fun x => takesFrom h.connId x.label := by
    rw [replies_length, ← handled_eq_countP]
    exact answered_le_handled hinit hrun hids h.connId
  rw [replies_eq] at hk hle
  obtain ⟨tr₁, x, tr₂, tr₃, rfl, htakes, hcount, hsilent, hone⟩ :=
    exists_exchange (fun tr₁ x tr₂ htr htakes => by
      rw [← replies_eq, replies_length, ← handled_eq_countP]
      exact answered_of_takesFrom hinit hrun hids hseq htr htakes) hle hk
  rw [← handled_eq_countP] at hcount
  rw [← replies_eq] at hone
  obtain ⟨cmd, htaken, hcmd⟩ := exists_command_of_takesFrom htakes
  -- the command is the `k`-th of the connection
  have hnth : (commands h.connId (tr₁ ++ x :: (tr₂ ++ tr₃)))[k]? = some cmd := by
    rw [← List.singleton_append, commands_append, commands_append, hcmd,
      List.getElem?_append_right (by rw [commands_length, hcount]), commands_length, hcount,
      Nat.sub_self]
    rfl
  have hsent := getElem?_of_begins (commands_begin hinit hrun hids hh) hnth
  rw [List.getElem?_map, Option.map_eq_some_iff] at hsent
  obtain ⟨request, hrequest, rfl⟩ := hsent
  exact ⟨request, hrequest, tr₁, x, tr₂, tr₃, rfl, hcount, htaken, hsilent, hone⟩

section Client

variable {σ : Type} {sink : Sink σ} {messages : Codec Message} {client : IpcClient σ}
  {sent : List Request} {h : Handler}

/-- A response that has been written is a reply of the daemon. -/
theorem exists_reply_of_received (hinit : Initial srv₀) (hrun : Run (Step codec) srv₀ tr srv)
    (hids : (spent tr).length ≤ u64Size) (hh : h ∈ srv.handlers) {k : ℕ}
    (hk : k < received h.connId tr) :
    ∃ response, ((wrote h.connId tr).filterMap Message.toResponse)[k]? = some response
      ∧ (replies h.connId tr)[k]? = some response := by
  rw [received, ← length_filterMap_toResponse] at hk
  have hwritten := List.getElem?_eq_getElem hk
  exact ⟨_, hwritten,
    getElem?_of_begins ((holding hinit hrun hids h hh).begins.filterMap _) hwritten⟩

/-- A response that has been written is what the call of its number returns. -/
theorem call_returns {written : List Message} (hmessages : messages.Lawful)
    (hconnects : Connects sink codec messages client sent h written) {k : ℕ} {response : Response}
    (hk : k < sent.length)
    (hwritten : (written.filterMap Message.toResponse)[k]? = some response) :
    (IpcClient.calls sink codec messages client sent).1[k]? = some (.ok response) := by
  obtain ⟨w, hwrites, -⟩ := hconnects.writes
  obtain ⟨more, hmore⟩ := hconnects.responses hmessages
  refine calls_answer hwrites hk ?_
  rw [hmore]
  exact getElem?_of_begins (List.prefix_append _ _) hwritten

/-- **Every call returns the response to its own request.** Let a client make calls over a
    connection of the server, each once the one before has returned. However the server's threads,
    its other connections, its timer and its signals come in between, whatever events the client
    is sent, and whether responses are given at once or later: for every response that has been
    written to the connection, the call of that number returns it, and it is the one response the
    daemon gave between taking the request of this call and taking another of the connection. -/
theorem calls_answered (hinit : Initial srv₀) (hrun : Run (Step codec) srv₀ tr srv)
    (hids : (spent tr).length ≤ u64Size) (hh : h ∈ srv.handlers) (hseq : Sequential h.connId tr)
    (hsink : sink.Lawful) (hcodec : codec.Lawful) (hmessages : messages.Lawful)
    (hconnects : Connects sink codec messages client sent h (wrote h.connId tr)) {k : ℕ}
    (hk : k < received h.connId tr) :
    ∃ request response, sent[k]? = some request
      ∧ (IpcClient.calls sink codec messages client sent).1[k]? = some (.ok response)
      ∧ Answers h.connId h.peer tr k request response := by
  obtain ⟨response, hwritten, hreply⟩ := exists_reply_of_received hinit hrun hids hh hk
  obtain ⟨request, hrequest, hanswers⟩ := replies_answer hinit hrun hids hh hseq hreply
  rw [hconnects.readable hsink hcodec] at hrequest
  have hsent : k < sent.length := (List.getElem?_eq_some_iff.1 hrequest).1
  exact ⟨request, response, hrequest, call_returns hmessages hconnects hsent hwritten, hanswers⟩

end Client

section Example

/-- The visit, up to where the answer has been written. -/
theorem visit_written :
    ∃ stream srv tr,
      Writes Sink.buffer Codec.reportActivity [] [.reportActivity "seat0"] stream.bytes
      ∧ Run (Step Codec.reportActivity) { daemon := Daemon.demo } tr srv ∧ spent tr = [1]
      ∧ asked 1 tr = 1 ∧ wrote 1 tr = [.response .ok]
      ∧ ∃ h ∈ srv.handlers, h.connId = 1 ∧ h.peer = visitor ∧ h.stream = stream := by
  obtain ⟨stream, ⟨daemon, nextConnId, handlers, queue⟩, tr, -, hwrites, hrun, hspent, htaken,
    hqueue, hquiet, hhandlers, -⟩ := visit
  obtain rfl : handlers = _ := hhandlers
  obtain rfl : queue = [] := hqueue
  have horderly := orderly ⟨Daemon.demo, Daemon.demo_initial, rfl⟩ hrun (by rw [hspent]; decide)
  have hsaid : said tr = dialogue 1 visitor [.reportActivity "seat0"] := by
    rw [horderly.queue, htaken, List.append_nil]
  have hnothing : wrote 1 tr = [] := by
    refine List.filterMap_eq_nil_iff.2 fun x hx => ?_
    have hno := hquiet x hx
    obtain ⟨pre, l, post⟩ := x
    cases l with
    | thread c act =>
        cases act with
        | wrote message => exact absurd rfl (hno c message)
        | _ => simp [wroteBy, HandlerAct.toPeer]
    | _ => rfl
  have hreceived := hrun.snoc (Step.thread _ (i := 0) rfl (Handler.Step.receive _ rfl rfl))
  have hwritten := hreceived.snoc (Step.thread _ (i := 0) rfl (Handler.Step.written _ rfl))
  refine ⟨stream, _, _, hwrites, hwritten, ?_, ?_, ?_, _, List.mem_singleton_self _, rfl, rfl, rfl⟩
  · rw [spent_snoc, spent_snoc, hspent]
    rfl
  · rw [asked_snoc, asked_snoc, asked, hsaid]
    rfl
  · rw [wrote_snoc, wrote_snoc, hnothing]
    rfl

/-- The visitor calls, and gets the answer to its report. -/
theorem visit_call_answered :
    ∃ (tr : List (Transition Server ServerLabel)) (client : IpcClient (List UInt8))
      (response : Response),
      (IpcClient.calls Sink.buffer Codec.reportActivity Codec.bare client
          [.reportActivity "seat0"]).1[0]? = some (.ok response)
        ∧ Answers 1 visitor tr 0 (.reportActivity "seat0") response := by
  obtain ⟨stream, srv, tr, hwrites, hrun, hspent, hasked, hwrote, h, hh, hconnId, hpeer, rfl⟩ :=
    visit_written
  rw [← hpeer]
  have hasked' : asked h.connId tr ≤ 1 := by rw [hconnId, hasked]
  have hwrote' : wrote h.connId tr = [.response .ok] := by rw [hconnId, hwrote]
  let client : IpcClient (List UInt8) :=
    { reader := ⟨frame (leBytes 4 0 ++ leBytes 4 0), none⟩, writer := [] }
  have hsize : "seat0".utf8ByteSize = 5 := by decide
  have hconnects : Connects Sink.buffer Codec.reportActivity Codec.bare client
      [.reportActivity "seat0"] h (wrote h.connId tr) := by
    refine ⟨⟨_, hwrites, rfl⟩, ?_, [leBytes 4 0 ++ leBytes 4 0], [], ?_, ?_, rfl⟩
    · obtain ⟨payload, hserialize, hlen⟩ :=
        @serialize_reportActivity "seat0" (by rw [hsize]; decide)
      simp only [List.forall_mem_singleton]
      intro payload' hpayload'
      obtain rfl := Except.ok.inj (hserialize.symm.trans hpayload')
      rw [hlen, hsize]
      decide
    · rw [hwrote']
      exact List.Forall₂.cons rfl List.Forall₂.nil
    · decide
  obtain ⟨request, response, hrequest, hcall, hanswers⟩ :=
    calls_answered ⟨Daemon.demo, Daemon.demo_initial, rfl⟩ hrun (by rw [hspent]; decide) hh
      (sequential_of_le_one hasked') Sink.buffer_lawful Codec.reportActivity_lawful
      Codec.bare_lawful hconnects (k := 0) (by rw [received, hwrote']; decide)
  obtain rfl := Option.some.inj hrequest
  rw [hconnId] at hanswers
  exact ⟨tr, client, response, hcall, hanswers⟩

end Example

end Server

end MitosSession
