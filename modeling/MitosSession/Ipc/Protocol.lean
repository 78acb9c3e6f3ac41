import MitosSession.Streams
import MitosSession.Ipc
import Mathlib.Data.List.Forall2

set_option autoImplicit false

/-! # Framing

`write_message` and `read_message` of `ipc/protocol.rs`: a message is its encoding behind four
bytes of length. The encoding (`bincode`), the stream written to and the stream read from are
parameters; what is assumed of them is `Codec.Lawful`, that decoding undoes encoding, and
`Sink.Lawful`, that what was accepted is delivered in order.

Writing and reading do not agree on how long a message may be: any length that fits the prefix
can be written, 16 MiB can be read. `written_is_read_iff` says what that costs. -/

namespace MitosSession

/-! ## The encoding -/

/-- `bincode::serialize` and `bincode::deserialize` for one type; an error is its text. -/
structure Codec (T : Type) where
  serialize : T → Except String (List UInt8)
  deserialize : List UInt8 → Except String T

/-- Decoding undoes encoding. -/
def Codec.Lawful {T : Type} (codec : Codec T) : Prop :=
  ∀ msg payload, codec.serialize msg = .ok payload → codec.deserialize payload = .ok msg

/-! ## The protocol -/

/-- `MAX_MESSAGE_LEN`. -/
def maxMessageLen : ℕ := 16 * 1024 * 1024

section Protocol

variable {T σ : Type}

/-- `write_message`. -/
def writeMessage (sink : Sink σ) (codec : Codec T) (msg : T) (writer : σ) : Result Unit × σ :=
  match codec.serialize msg with
  | .error e => (.error (.protocol e), writer)
  | .ok payload =>
      if payload.length < u32Size then
        match sink.writeAll (leBytes 4 payload.length) writer with
        | (.error e, writer) => (.error (.ofIo e), writer)
        | (.ok (), writer) =>
            match sink.writeAll payload writer with
            | (.error e, writer) => (.error (.ofIo e), writer)
            | (.ok (), writer) =>
                match sink.flush writer with
                | (.error e, writer) => (.error (.ofIo e), writer)
                | (.ok (), writer) => (.ok (), writer)
      else
        (.error (.protocol "message too large to frame"), writer)

/-- `read_message`. -/
def readMessage (codec : Codec T) (reader : ByteReader) : Result T × ByteReader :=
  match reader.readExact 4 with
  | (.error e, reader) =>
      (.error (if e.kind = .unexpectedEof then .disconnected else .ofIo e), reader)
  | (.ok lenBuf, reader) =>
      let len := ofLeBytes lenBuf
      if len > maxMessageLen then
        (.error (.protocol ("message of " ++ toString len ++ " bytes exceeds the "
          ++ toString maxMessageLen ++ " byte limit")), reader)
      else
        match reader.readExact len with
        | (.error e, reader) => (.error (.ofIo e), reader)
        | (.ok payload, reader) =>
            match codec.deserialize payload with
            | .ok msg => (.ok msg, reader)
            | .error e => (.error (.protocol e), reader)

/-- Reading `n` times, whatever comes. -/
def readMessages (codec : Codec T) : ℕ → ByteReader → List (Result T) × ByteReader
  | 0, reader => ([], reader)
  | n + 1, reader =>
      let (answer, reader) := readMessage codec reader
      let (answers, reader) := readMessages codec n reader
      (answer :: answers, reader)

/-- Messages written one after the other, each successfully. -/
inductive Writes (sink : Sink σ) (codec : Codec T) : σ → List T → σ → Prop
  | nil {w : σ} : Writes sink codec w [] w
  | cons {w w' w'' : σ} {msg : T} {msgs : List T} :
      writeMessage sink codec msg w = (.ok (), w') → Writes sink codec w' msgs w'' →
      Writes sink codec w (msg :: msgs) w''

/-- A payload behind its length. -/
def frame (payload : List UInt8) : List UInt8 :=
  leBytes 4 payload.length ++ payload

/-- The encodings of messages. -/
def Encodes (codec : Codec T) : List T → List (List UInt8) → Prop :=
  List.Forall₂ fun msg payload => codec.serialize msg = .ok payload

/-! ## Writing -/

/-- A message that was written is on its way in one frame. -/
theorem writeMessage_ok {sink : Sink σ} {codec : Codec T} {msg : T} {w w' : σ}
    (hsink : sink.Lawful) (h : writeMessage sink codec msg w = (.ok (), w')) :
    ∃ payload, codec.serialize msg = .ok payload ∧ payload.length < u32Size
      ∧ sink.delivered w' = sink.delivered w ++ frame payload := by
  unfold writeMessage at h
  cases hserialize : codec.serialize msg with
  | error e => simp [hserialize] at h
  | ok payload =>
      rw [hserialize] at h
      dsimp only at h
      split at h
      · rename_i hlen
        split at h
        · cases h
        · rename_i w₁ hprefix
          split at h
          · cases h
          · rename_i w₂ hpayload
            split at h
            · cases h
            · rename_i w₃ hflush
              obtain rfl := (Prod.mk.inj h).2
              refine ⟨payload, rfl, hlen, ?_⟩
              rw [hsink.flush _ _ hflush, hsink.writeAll _ _ _ hpayload,
                hsink.writeAll _ _ _ hprefix, frame, List.append_assoc]
      · cases h

theorem Writes.encodes {sink : Sink σ} {codec : Codec T} {msgs : List T} {w w' : σ}
    (hsink : sink.Lawful) (h : Writes sink codec w msgs w') :
    ∃ payloads, Encodes codec msgs payloads ∧ (∀ payload ∈ payloads, payload.length < u32Size)
      ∧ sink.delivered w' = sink.delivered w ++ payloads.flatMap frame := by
  induction h with
  | nil => exact ⟨[], List.Forall₂.nil, by simp, by simp⟩
  | cons hwrite _ ih =>
      obtain ⟨payload, hserialize, hlen, hdelivered⟩ := writeMessage_ok hsink hwrite
      obtain ⟨payloads, hencodes, hlens, hdelivered'⟩ := ih
      refine ⟨payload :: payloads, List.Forall₂.cons hserialize hencodes, ?_, ?_⟩
      · simpa using ⟨hlen, hlens⟩
      · rw [hdelivered', hdelivered, List.append_assoc, List.flatMap_cons]

/-! ## Reading -/

variable {codec : Codec T} {msg : T} {payload rest : List UInt8} {failure : Option IoError}

/-- The four bytes in front of a payload are its length. -/
theorem ofLeBytes_length (h : payload.length < u32Size) :
    ofLeBytes (leBytes 4 payload.length) = payload.length :=
  ofLeBytes_leBytes h

theorem Encodes.forall_payload_iff {msgs : List T} {payloads : List (List UInt8)}
    (h : Encodes codec msgs payloads) {p : List UInt8 → Prop} :
    (∀ msg ∈ msgs, ∀ payload, codec.serialize msg = .ok payload → p payload) ↔
      ∀ payload ∈ payloads, p payload := by
  induction h with
  | nil => simp
  | cons hserialize _ ih => simp [hserialize, ih]

/-- A whole frame is read as what it encodes. -/
theorem readMessage_frame (hcodec : codec.Lawful) (hserialize : codec.serialize msg = .ok payload)
    (hlen : payload.length ≤ maxMessageLen) :
    readMessage codec ⟨frame payload ++ rest, failure⟩ = (.ok msg, ⟨rest, failure⟩) := by
  have hsize : payload.length < u32Size := hlen.trans_lt (by decide)
  unfold readMessage frame
  rw [List.append_assoc, readExact_append (length_leBytes ..)]
  dsimp only
  rw [ofLeBytes_length hsize, if_neg (Nat.not_lt.2 hlen), readExact_append rfl]
  dsimp only
  rw [hcodec msg payload hserialize]

/-- A frame longer than what the reader takes is refused after its length. -/
theorem readMessage_oversized (hsize : payload.length < u32Size)
    (hlen : maxMessageLen < payload.length) :
    readMessage codec ⟨frame payload ++ rest, failure⟩
      = (.error (.protocol ("message of " ++ toString payload.length ++ " bytes exceeds the "
        ++ toString maxMessageLen ++ " byte limit")), ⟨payload ++ rest, failure⟩) := by
  unfold readMessage frame
  rw [List.append_assoc, readExact_append (length_leBytes ..)]
  dsimp only
  rw [ofLeBytes_length hsize, if_pos hlen]

/-- Reading as many messages as there are frames gives them all exactly if none is too long. -/
theorem readMessages_frames_iff {msgs : List T} {payloads : List (List UInt8)}
    (hcodec : codec.Lawful) (hencodes : Encodes codec msgs payloads)
    (hsize : ∀ payload ∈ payloads, payload.length < u32Size) :
    readMessages codec msgs.length ⟨payloads.flatMap frame, failure⟩
        = (msgs.map .ok, ⟨[], failure⟩) ↔
      ∀ payload ∈ payloads, payload.length ≤ maxMessageLen := by
  induction hencodes with
  | nil => simp [readMessages]
  | @cons msg payload msgs payloads hserialize _ ih =>
      rw [List.forall_mem_cons] at hsize
      specialize ih hsize.2
      simp only [List.flatMap_cons, List.length_cons, readMessages, List.map_cons,
        List.forall_mem_cons]
      by_cases hlen : payload.length ≤ maxMessageLen
      · rw [readMessage_frame hcodec hserialize hlen, ← ih]
        simp [Prod.ext_iff, hlen]
      · rw [readMessage_oversized hsize.1 (Nat.lt_of_not_le hlen)]
        simp [hlen]

/-- Messages written one after the other are read back, with nothing left over, exactly if no
    encoding is longer than the 16 MiB the reader takes. -/
theorem written_is_read_iff {sink : Sink σ} {msgs : List T} {w w' : σ} (hcodec : codec.Lawful)
    (hsink : sink.Lawful) (h : Writes sink codec w msgs w') :
    ∃ bytes, sink.delivered w' = sink.delivered w ++ bytes
      ∧ (readMessages codec msgs.length ⟨bytes, none⟩ = (msgs.map .ok, ⟨[], none⟩) ↔
        ∀ msg ∈ msgs, ∀ payload, codec.serialize msg = .ok payload →
          payload.length ≤ maxMessageLen) := by
  obtain ⟨payloads, hencodes, hsize, hdelivered⟩ := h.encodes hsink
  refine ⟨_, hdelivered, ?_⟩
  rw [readMessages_frames_iff hcodec hencodes hsize]
  exact hencodes.forall_payload_iff.symm

end Protocol

/-! ## A message -/

/-- `bincode`'s layout of `Request::ReportActivity`, the only request this codec takes: the index
    of the variant, the length of the seat's name, and the name. -/
def Codec.reportActivity : Codec Request where
  serialize
    | .reportActivity seatId =>
        if seatId.utf8ByteSize < 256 ^ 8 then
          .ok (leBytes 4 7 ++ (leBytes 8 seatId.utf8ByteSize ++ seatId.toByteArray.data.toList))
        else
          .error "the size limit has been reached"
    | _ => .error "not a ReportActivity"
  deserialize bytes :=
    match takeExact 4 bytes with
    | none => .error "unexpected end of file"
    | some (tag, bytes) =>
        if ofLeBytes tag = 7 then
          match takeExact 8 bytes with
          | none => .error "unexpected end of file"
          | some (len, bytes) =>
              match takeExact (ofLeBytes len) bytes with
              | none => .error "unexpected end of file"
              | some (name, _) =>
                  match String.fromUTF8? ⟨name.toArray⟩ with
                  | none => .error "string is not valid utf8"
                  | some seatId => .ok (.reportActivity seatId)
        else
          .error "not a ReportActivity"

theorem Codec.reportActivity_lawful : Codec.reportActivity.Lawful := by
  intro msg payload h
  cases msg with
  | reportActivity seatId =>
      simp only [Codec.reportActivity] at h
      split at h
      · rename_i hsize
        obtain rfl := Except.ok.inj h
        have htag : ofLeBytes (leBytes 4 7) = 7 := by decide
        have hname : seatId.toByteArray.data.toList.length = seatId.utf8ByteSize := rfl
        have hvalid : String.fromUTF8? ⟨seatId.toByteArray.data.toList.toArray⟩ = some seatId := by
          rw [Array.toArray_toList]
          exact dif_pos seatId.isValidUTF8
        have htake := takeExact_append hname []
        rw [List.append_nil] at htake
        simp only [Codec.reportActivity, takeExact_append (length_leBytes ..), htag, if_true,
          ofLeBytes_leBytes hsize, htake, hvalid]
      · cases h
  | _ => cases h

/-- A buffer to write to, which takes everything. -/
def Sink.buffer : Sink (List UInt8) where
  writeAll bytes w := (.ok (), w ++ bytes)
  flush w := (.ok (), w)
  delivered w := w

theorem Sink.buffer_lawful : Sink.buffer.Lawful where
  writeAll := by
    rintro bytes w w' ⟨⟩
    rfl
  flush := by
    rintro w w' ⟨⟩
    rfl

theorem serialize_reportActivity {seatId : String} (h : seatId.utf8ByteSize < 256 ^ 8) :
    ∃ payload, Codec.reportActivity.serialize (.reportActivity seatId) = .ok payload
      ∧ payload.length = 12 + seatId.utf8ByteSize := by
  refine ⟨_, if_pos h, ?_⟩
  have hname : seatId.toByteArray.data.toList.length = seatId.utf8ByteSize := rfl
  simp only [List.length_append, length_leBytes, hname]
  omega

theorem writes_reportActivity {seatId : String} (h : seatId.utf8ByteSize + 12 < u32Size) :
    ∃ w, Writes Sink.buffer Codec.reportActivity [] [.reportActivity seatId] w := by
  have hsize : seatId.utf8ByteSize < 256 ^ 8 := by
    unfold u32Size at h
    omega
  obtain ⟨payload, hserialize, hlen⟩ := serialize_reportActivity hsize
  have hshort : payload.length < u32Size := by omega
  have hwrite : writeMessage Sink.buffer Codec.reportActivity (.reportActivity seatId) []
      = (.ok (), [] ++ leBytes 4 payload.length ++ payload) := by
    simp only [writeMessage, hserialize, if_pos hshort, Sink.buffer]
  exact ⟨_, Writes.cons hwrite Writes.nil⟩

theorem written_is_read_seat0 :
    ∃ w bytes, Writes Sink.buffer Codec.reportActivity [] [.reportActivity "seat0"] w
      ∧ w = [] ++ bytes
      ∧ readMessages Codec.reportActivity 1 ⟨bytes, none⟩
        = ([.ok (.reportActivity "seat0")], ⟨[], none⟩) := by
  have hsize : "seat0".utf8ByteSize = 5 := by decide
  obtain ⟨w, hwrites⟩ := @writes_reportActivity "seat0" (by rw [hsize]; decide)
  obtain ⟨bytes, hbytes, hiff⟩ :=
    written_is_read_iff Codec.reportActivity_lawful Sink.buffer_lawful hwrites
  refine ⟨w, bytes, hwrites, hbytes, hiff.2 ?_⟩
  obtain ⟨payload, hserialize, hlen⟩ := @serialize_reportActivity "seat0" (by rw [hsize]; decide)
  intro msg hmsg payload' hserialize'
  obtain rfl := List.mem_singleton.1 hmsg
  obtain rfl := Except.ok.inj (hserialize'.symm.trans hserialize)
  rw [hlen, hsize]
  decide

/-- A seat's name of `n` letters. -/
def longName (n : ℕ) : String :=
  String.ofList (List.replicate n 'x')

theorem utf8ByteSize_longName (n : ℕ) : (longName n).utf8ByteSize = n := by
  have hencode : (List.replicate n 'x').utf8Encode.size = n := by
    induction n with
    | zero => rfl
    | succ n ih =>
        rw [List.replicate_succ, List.utf8Encode_cons, ByteArray.size_append, ih, Nat.add_comm]
        rfl
  change (longName n).toByteArray.size = n
  rw [longName, String.toByteArray_ofList, hencode]

/-- An activity report for a seat with a name of 16 MiB is written, and refused when read. -/
theorem written_is_not_read :
    ¬ ∀ (codec : Codec Request) (sink : Sink (List UInt8)) (w w' : List UInt8)
        (msgs : List Request), codec.Lawful → sink.Lawful → Writes sink codec w msgs w' →
      ∃ bytes, sink.delivered w' = sink.delivered w ++ bytes
        ∧ readMessages codec msgs.length ⟨bytes, none⟩ = (msgs.map .ok, ⟨[], none⟩) := by
  intro hall
  have hsize : (longName maxMessageLen).utf8ByteSize = maxMessageLen := utf8ByteSize_longName _
  obtain ⟨w, hwrites⟩ := @writes_reportActivity (longName maxMessageLen) (by rw [hsize]; decide)
  obtain ⟨bytes, hbytes, hread⟩ := hall Codec.reportActivity Sink.buffer [] w _
    Codec.reportActivity_lawful Sink.buffer_lawful hwrites
  obtain ⟨payloads, hencodes, hshort, hdelivered⟩ := hwrites.encodes Sink.buffer_lawful
  obtain rfl : bytes = payloads.flatMap frame :=
    List.append_cancel_left (hbytes.symm.trans hdelivered)
  rw [readMessages_frames_iff Codec.reportActivity_lawful hencodes hshort,
    ← hencodes.forall_payload_iff] at hread
  obtain ⟨payload, hserialize, hlen⟩ :=
    @serialize_reportActivity (longName maxMessageLen) (by rw [hsize]; decide)
  have hle := hread _ (List.mem_singleton_self _) payload hserialize
  rw [hlen, hsize] at hle
  exact absurd hle (by decide)

end MitosSession
