import MitosSession.Ipc.Protocol

set_option autoImplicit false

/-! # Hanging up in the middle of a frame

`read_message` reads twice: the length, then the payload. At the end of the file the first read
is turned into `Disconnected`; the second goes through `?` and comes out as an I/O error, although
the documentation promises `Disconnected` for every connection that is closed.
`cut_is_hangup_iff` tells the two apart for every stream of frames and every place where it can
end. -/

namespace MitosSession

/-- How many frames are complete in the first `cut` bytes. -/
def completeFrames : List (List UInt8) → ℕ → ℕ
  | [], _ => 0
  | payload :: payloads, cut =>
      if (frame payload).length ≤ cut then
        completeFrames payloads (cut - (frame payload).length) + 1
      else
        0

/-- The cut is inside a payload: the length in front of it is complete, the payload is not. -/
def CutsPayload (payloads : List (List UInt8)) (cut : ℕ) : Prop :=
  ∃ before payload after, payloads = before ++ payload :: after
    ∧ (before.flatMap frame).length + 4 ≤ cut
    ∧ cut < (before.flatMap frame).length + (frame payload).length

/-- What a reader that takes every end of the stream for a hang-up answers to `k` calls. -/
def hangupAnswers {T : Type} (complete : List T) (k : ℕ) : List (Result T) :=
  (complete.map Except.ok ++ List.replicate k (Except.error SessionError.disconnected)).take k

section Hangup

variable {T : Type} {codec : Codec T} {payload rest : List UInt8} {payloads : List (List UInt8)}
  {msgs : List T} {cut : ℕ}

theorem length_frame (payload : List UInt8) : (frame payload).length = 4 + payload.length := by
  rw [frame, List.length_append, length_leBytes]

/-! ## The condition, frame by frame -/

theorem cutsPayload_complete (h : (frame payload).length ≤ cut) :
    CutsPayload (payload :: payloads) cut ↔
      CutsPayload payloads (cut - (frame payload).length) := by
  constructor
  · rintro ⟨before, payload', after, hsplit, hstart, hend⟩
    cases before with
    | nil =>
        obtain ⟨rfl, -⟩ := List.cons.inj hsplit
        simp only [List.flatMap_nil, List.length_nil] at hend
        omega
    | cons first before =>
        obtain ⟨rfl, rfl⟩ := List.cons.inj hsplit
        simp only [List.flatMap_cons, List.length_append] at hstart hend
        exact ⟨before, payload', after, rfl, by omega, by omega⟩
  · rintro ⟨before, payload', after, rfl, hstart, hend⟩
    refine ⟨payload :: before, payload', after, rfl, ?_, ?_⟩
    · simp only [List.flatMap_cons, List.length_append]
      omega
    · simp only [List.flatMap_cons, List.length_append]
      omega

theorem cutsPayload_incomplete (h : cut < (frame payload).length) :
    CutsPayload (payload :: payloads) cut ↔ 4 ≤ cut := by
  constructor
  · rintro ⟨before, payload', after, -, hstart, -⟩
    omega
  · intro hstart
    exact ⟨[], payload, payloads, rfl, by simpa using hstart, by simpa using h⟩

/-! ## The reads -/

/-- At the end of the stream every read says that the peer has hung up. -/
theorem readMessages_end (k : ℕ) :
    (readMessages codec k ⟨[], none⟩).1 = List.replicate k (.error .disconnected) := by
  have hread : readMessage codec ⟨[], none⟩ = (.error .disconnected, ⟨[], none⟩) := by
    unfold readMessage
    rw [readExact_short (by decide)]
    rfl
  induction k with
  | zero => rfl
  | succ k ih => rw [readMessages, hread, List.replicate_succ, ← ih]

/-- A stream that ends inside the length. -/
theorem readMessage_cut_length (h : rest.length < 4) :
    readMessage codec ⟨rest, none⟩ = (.error .disconnected, ⟨[], none⟩) := by
  unfold readMessage
  rw [readExact_short h]
  rfl

/-- A stream that ends inside the payload. -/
theorem readMessage_cut_payload (hlen : payload.length ≤ maxMessageLen)
    (h : rest.length < payload.length) :
    readMessage codec ⟨leBytes 4 payload.length ++ rest, none⟩
      = (.error (.ofIo .readExactEof), ⟨[], none⟩) := by
  have hsize : payload.length < u32Size := hlen.trans_lt (by decide)
  unfold readMessage
  rw [readExact_append (length_leBytes ..)]
  dsimp only
  rw [ofLeBytes_length hsize, if_neg (Nat.not_lt.2 hlen), readExact_short h]

/-- Behind a complete frame the reading goes on. -/
theorem hangup_complete {msg : T} (hcodec : codec.Lawful)
    (hserialize : codec.serialize msg = .ok payload) (hlen : payload.length ≤ maxMessageLen)
    (complete : List T) :
    (∀ k, (readMessages codec k ⟨frame payload ++ rest, none⟩).1
        = hangupAnswers (msg :: complete) k) ↔
      ∀ k, (readMessages codec k ⟨rest, none⟩).1 = hangupAnswers complete k := by
  have hstep : ∀ k, (readMessages codec (k + 1) ⟨frame payload ++ rest, none⟩).1
      = .ok msg :: (readMessages codec k ⟨rest, none⟩).1 := by
    intro k
    rw [readMessages, readMessage_frame hcodec hserialize hlen]
  have hanswers : ∀ k, hangupAnswers (msg :: complete) (k + 1)
      = .ok msg :: hangupAnswers complete k := by
    intro k
    simp [hangupAnswers, List.take_append]
    omega
  constructor
  · intro hall k
    have hk := hall (k + 1)
    rw [hstep, hanswers] at hk
    exact (List.cons.inj hk).2
  · intro hall k
    cases k with
    | zero => rfl
    | succ k => rw [hstep, hanswers, hall k]

/-- At the cut: the length reports a hang-up, the payload an I/O error. -/
theorem hangup_incomplete (hlen : payload.length ≤ maxMessageLen)
    (hcut : cut < (frame payload).length) :
    (∀ k, (readMessages codec k ⟨(frame payload).take cut, none⟩).1 = hangupAnswers [] k) ↔
      ¬ 4 ≤ cut := by
  have hanswers : ∀ k, hangupAnswers ([] : List T) k
      = List.replicate k (.error .disconnected) := by
    intro k
    simp [hangupAnswers]
  rw [length_frame] at hcut
  by_cases hstart : 4 ≤ cut
  · refine iff_of_false (fun hall => ?_) (not_not.2 hstart)
    have hbytes : (frame payload).take cut
        = leBytes 4 payload.length ++ payload.take (cut - 4) := by
      rw [frame, List.take_append, length_leBytes, List.take_of_length_le (by simpa using hstart)]
    have hshort : (payload.take (cut - 4)).length < payload.length := by
      rw [List.length_take]
      omega
    have hone := hall 1
    rw [hbytes, readMessages, readMessage_cut_payload hlen hshort, hanswers] at hone
    cases (List.cons.inj hone).1
  · refine iff_of_true (fun k => ?_) hstart
    have hshort : ((frame payload).take cut).length < 4 := by
      rw [List.length_take]
      omega
    rw [hanswers]
    cases k with
    | zero => rfl
    | succ k =>
        rw [readMessages, readMessage_cut_length hshort, List.replicate_succ, ← readMessages_end]

/-- Reading on and on from a stream of frames that ends after `cut` bytes gives the complete
    messages and then `Disconnected` for ever, exactly if the stream does not end inside a
    payload. -/
theorem cut_is_hangup_iff (hcodec : codec.Lawful) (hencodes : Encodes codec msgs payloads)
    (hlen : ∀ payload ∈ payloads, payload.length ≤ maxMessageLen) (cut : ℕ) :
    (∀ k, (readMessages codec k ⟨(payloads.flatMap frame).take cut, none⟩).1
        = hangupAnswers (msgs.take (completeFrames payloads cut)) k) ↔
      ¬ CutsPayload payloads cut := by
  induction hencodes generalizing cut with
  | nil =>
      refine iff_of_true (fun k => ?_) ?_
      · rw [List.flatMap_nil, List.take_nil, readMessages_end]
        simp [hangupAnswers]
      · rintro ⟨before, payload, after, hnil, -⟩
        simp at hnil
  | @cons msg payload msgs payloads hserialize _ ih =>
      rw [List.forall_mem_cons] at hlen
      by_cases hcut : (frame payload).length ≤ cut
      · rw [List.flatMap_cons, List.take_append, List.take_of_length_le hcut, completeFrames,
          if_pos hcut, List.take_succ_cons, hangup_complete hcodec hserialize hlen.1, ih hlen.2,
          cutsPayload_complete hcut]
      · have hinside : cut < (frame payload).length := Nat.lt_of_not_le hcut
        rw [List.flatMap_cons, List.take_append_of_le_length hinside.le, completeFrames,
          if_neg hcut, List.take_zero, hangup_incomplete hlen.1 hinside,
          cutsPayload_incomplete hinside]

end Hangup

/-- One activity report, in 17 bytes. -/
theorem encodes_seat0 :
    ∃ payload, Encodes Codec.reportActivity [.reportActivity "seat0"] [payload]
      ∧ payload.length = 17 := by
  have hsize : "seat0".utf8ByteSize = 5 := by decide
  obtain ⟨payload, hserialize, hlen⟩ := @serialize_reportActivity "seat0" (by rw [hsize]; decide)
  exact ⟨payload, List.Forall₂.cons hserialize List.Forall₂.nil, by rw [hlen, hsize]⟩

/-- The peer hangs up after two bytes of the length. -/
theorem cut_is_hangup_in_length :
    ∃ payload, Encodes Codec.reportActivity [.reportActivity "seat0"] [payload]
      ∧ ∀ k, (readMessages Codec.reportActivity k ⟨([payload].flatMap frame).take 2, none⟩).1
        = hangupAnswers [] k := by
  obtain ⟨payload, hencodes, hlen⟩ := encodes_seat0
  have hframe : 2 < (frame payload).length := by
    rw [length_frame]
    omega
  have hmax : ∀ p ∈ [payload], p.length ≤ maxMessageLen := by
    intro p hp
    rw [List.mem_singleton.1 hp, hlen]
    decide
  have hnone : completeFrames [payload] 2 = 0 := by
    rw [completeFrames, if_neg (Nat.not_le.2 hframe)]
  have hall := (cut_is_hangup_iff Codec.reportActivity_lawful hencodes hmax 2).2 (by
    rw [cutsPayload_incomplete hframe]
    decide)
  rw [hnone, List.take_zero] at hall
  exact ⟨payload, hencodes, hall⟩

/-- The peer hangs up after the length and two bytes of the payload: an I/O error. -/
theorem cut_is_no_hangup :
    ¬ ∀ (codec : Codec Request) (msgs : List Request) (payloads : List (List UInt8)) (cut k : ℕ),
      codec.Lawful → Encodes codec msgs payloads →
      (∀ payload ∈ payloads, payload.length ≤ maxMessageLen) →
      (readMessages codec k ⟨(payloads.flatMap frame).take cut, none⟩).1
        = hangupAnswers (msgs.take (completeFrames payloads cut)) k := by
  intro hall
  obtain ⟨payload, hencodes, hlen⟩ := encodes_seat0
  have hframe : 6 < (frame payload).length := by
    rw [length_frame]
    omega
  have hmax : payload.length ≤ maxMessageLen := by
    rw [hlen]
    decide
  have hnone : completeFrames [payload] 6 = 0 := by
    rw [completeFrames, if_neg (Nat.not_le.2 hframe)]
  have hreads : ∀ k, (readMessages Codec.reportActivity k ⟨(frame payload).take 6, none⟩).1
      = hangupAnswers [] k := by
    intro k
    have hk := hall Codec.reportActivity _ [payload] 6 k Codec.reportActivity_lawful hencodes
      (by simpa using hmax)
    rwa [hnone, List.take_zero, List.flatMap_singleton] at hk
  exact (hangup_incomplete hmax hframe).1 hreads (by decide)

end MitosSession
