import MitosSession.Ipc.Protocol

set_option autoImplicit false

/-! # Reading message after message

Both ends of a connection read messages until one cannot be read: `readable` is what they get to
see of a stream. Every message takes some bytes (`readMessage_ok_length`), so there are only so
many. -/

namespace MitosSession

variable {T : Type} (codec : Codec T)

/-- The messages before the first that cannot be read, at most `n`. -/
def readableMessages : ℕ → ByteReader → List T
  | 0, _ => []
  | n + 1, reader =>
      match readMessage codec reader with
      | (.ok msg, reader) => msg :: readableMessages n reader
      | (.error _, _) => []

/-- All messages before the first that cannot be read: each takes some bytes. -/
def readable (reader : ByteReader) : List T :=
  readableMessages codec reader.bytes.length reader

variable {codec}

theorem readExact_ok_length {reader reader' : ByteReader} {n : ℕ} {bytes : List UInt8}
    (h : reader.readExact n = (.ok bytes, reader')) :
    reader.bytes.length = n + reader'.bytes.length := by
  unfold ByteReader.readExact takeExact at h
  split at h
  · rename_i taken rest htaken
    split at htaken
    · rename_i hle
      obtain ⟨-, rfl⟩ := Prod.mk.inj (Option.some.inj htaken)
      obtain ⟨-, rfl⟩ := Prod.mk.inj h
      simp only [List.length_drop]
      omega
    · cases htaken
  · cases h

/-- Whoever reads a message has read its length at least. -/
theorem readMessage_ok_length {reader reader' : ByteReader} {msg : T}
    (h : readMessage codec reader = (.ok msg, reader')) :
    reader'.bytes.length < reader.bytes.length := by
  unfold readMessage at h
  split at h
  · cases h
  · rename_i lenBuf rest hprefix
    have hlen := readExact_ok_length hprefix
    dsimp only at h
    split at h
    · cases h
    · split at h
      · cases h
      · rename_i payload rest' hpayload
        have hlen' := readExact_ok_length hpayload
        split at h
        · obtain ⟨-, rfl⟩ := Prod.mk.inj h
          omega
        · cases h

/-- Reading on after the bytes are gone reads nothing. -/
theorem readableMessages_eq {n m : ℕ} {reader : ByteReader} (hn : reader.bytes.length ≤ n)
    (hm : reader.bytes.length ≤ m) :
    readableMessages codec n reader = readableMessages codec m reader := by
  induction n generalizing m reader with
  | zero =>
      cases m with
      | zero => rfl
      | succ m =>
          rw [readableMessages, readableMessages]
          split
          · rename_i msg reader' hread
            have hless := readMessage_ok_length hread
            omega
          · rfl
  | succ n ih =>
      cases m with
      | zero =>
          rw [readableMessages, readableMessages]
          split
          · rename_i msg reader' hread
            have hless := readMessage_ok_length hread
            omega
          · rfl
      | succ m =>
          rw [readableMessages, readableMessages]
          split
          · rename_i msg reader' hread
            have hless := readMessage_ok_length hread
            rw [ih (m := m) (by omega) (by omega)]
          · rfl

theorem readable_of_ok {reader reader' : ByteReader} {msg : T}
    (h : readMessage codec reader = (.ok msg, reader')) :
    readable codec reader = msg :: readable codec reader' := by
  have hless := readMessage_ok_length h
  have hlonger : readable codec reader = readableMessages codec (reader.bytes.length + 1) reader :=
    readableMessages_eq (le_refl _) (Nat.le_succ _)
  rw [hlonger, readableMessages, h]
  exact congrArg (msg :: ·) (readableMessages_eq hless.le (le_refl _))

theorem readable_of_error {reader reader' : ByteReader} {e : SessionError}
    (h : readMessage codec reader = (.error e, reader')) : readable codec reader = [] := by
  unfold readable
  cases reader.bytes.length with
  | zero => rfl
  | succ n => rw [readableMessages, h]

/-- What was written in frames that the reader takes is what can be read, before anything else. -/
theorem readable_frames {msgs : List T} {payloads : List (List UInt8)} {rest : List UInt8}
    {failure : Option IoError} (hcodec : codec.Lawful) (hencodes : Encodes codec msgs payloads)
    (hsize : ∀ payload ∈ payloads, payload.length ≤ maxMessageLen) :
    readable codec ⟨payloads.flatMap frame ++ rest, failure⟩
      = msgs ++ readable codec ⟨rest, failure⟩ := by
  induction hencodes with
  | nil => rfl
  | @cons msg payload msgs payloads hserialize _ ih =>
      rw [List.forall_mem_cons] at hsize
      rw [List.flatMap_cons, List.append_assoc,
        readable_of_ok (readMessage_frame hcodec hserialize hsize.1), ih hsize.2,
        List.cons_append]

/-! ## Over a buffer -/

/-- A codec that takes only some messages, given with their encodings. -/
def Codec.ofTable {T : Type} [DecidableEq T] (table : List (T × List UInt8)) : Codec T where
  serialize msg :=
    match table.find? fun e => e.1 = msg with
    | some e => .ok e.2
    | none => .error "not in the table"
  deserialize bytes :=
    match table.find? fun e => e.2 = bytes with
    | some e => .ok e.1
    | none => .error "not in the table"

theorem Codec.ofTable_lawful {T : Type} [DecidableEq T] {table : List (T × List UInt8)}
    (hnodup : (table.map Prod.snd).Nodup) : (Codec.ofTable table).Lawful := by
  intro msg payload h
  simp only [Codec.ofTable] at h ⊢
  cases hfind : table.find? fun e => e.1 = msg with
  | none => simp [hfind] at h
  | some e =>
      rw [hfind] at h
      obtain rfl := Except.ok.inj h
      have hmsg : e.1 = msg := by simpa using List.find?_some hfind
      have hmem : e ∈ table := List.mem_of_find?_eq_some hfind
      cases hback : table.find? fun e' => e'.2 = e.2 with
      | none =>
          have hno := List.find?_eq_none.1 hback e hmem
          simp at hno
      | some e' =>
          have hsame : e'.2 = e.2 := by simpa using List.find?_some hback
          obtain rfl := List.inj_on_of_nodup_map hnodup (List.mem_of_find?_eq_some hback) hmem hsame
          exact congrArg Except.ok hmsg

/-- A message whose encoding is known, written to a buffer. -/
theorem writes_buffer {msg : T} {payload : List UInt8}
    (hserialize : codec.serialize msg = .ok payload) (hlen : payload.length < u32Size) :
    Writes Sink.buffer codec [] [msg] (frame payload) := by
  refine Writes.cons ?_ Writes.nil
  simp only [writeMessage, hserialize, if_pos hlen, Sink.buffer, List.nil_append]
  rfl

end MitosSession
