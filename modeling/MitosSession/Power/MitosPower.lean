import MitosSession.Streams
import MitosSession.Text

set_option autoImplicit false

/-! # The mitos-power client

`MitosPowerBackend::call` of `power/mitos_power.rs`: one request to mitos-power and the wait for
its reply, one JSON value a line. Opening the connection and `serde_json` are parameters; the
bytes that come back are arbitrary. The loop is run for a number of rounds, and `none` is a loop
that has not ended by then.

`judge` is what a single line means to the loop and `verdict` what a list of lines does;
`awaitReply_eq_verdict` is the loop seen as that, for every stream. -/

namespace MitosSession

/-! ## JSON -/

/-- `serde_json::Value`. A number is kept as its text. -/
inductive JsonValue where
  | null
  | bool (b : Bool)
  | number (text : String)
  | string (s : String)
  | array (items : List JsonValue)
  | object (members : List (String × JsonValue))

namespace JsonValue

/-- `Value::get` with a string: the member of an object. -/
def get (self : JsonValue) (key : String) : Option JsonValue :=
  match self with
  | .object members => members.lookup key
  | _ => none

/-- `Value::as_str`. -/
def asStr : JsonValue → Option String
  | .string s => some s
  | _ => none

/-- `Value::as_bool`. -/
def asBool : JsonValue → Option Bool
  | .bool b => some b
  | _ => none

end JsonValue

/-- `serde_json::to_string` and `serde_json::from_str`; an error is its text. -/
structure SerdeJson where
  toString : JsonValue → Except String String
  fromStr : List Char → Except String JsonValue

/-! ## The client -/

/-- What the operating system does for one call: the errors of opening the connection and of
    writing to it, as their texts, and what mitos-power sends back. -/
structure PowerLink where
  connect : String → Except String Unit
  setReadTimeout : Except String Unit
  tryClone : Except String Unit
  setWriteTimeout : Except String Unit
  writeAll : String → Except String Unit
  incoming : ByteReader

/-- `power::MitosPowerBackend`. -/
structure MitosPowerBackend where
  socketPath : String

namespace MitosPowerBackend

/-- `map_err(|e| SessionError::Protocol(format!("{context}{e}")))`. -/
def protocolError {α : Type} (context : String) (r : Except String α) : Result α :=
  r.mapError fun e => .protocol (context ++ e)

/-- The request for a method. -/
def request (method : String) : JsonValue :=
  .object [("kind", .string "request"), ("id", .string "mitos-session"),
    ("method", .string method), ("params", .object [])]

/-- `MitosPowerBackend::call` up to the loop: connecting and sending the request. -/
def sendRequest (self : MitosPowerBackend) (json : SerdeJson) (link : PowerLink)
    (method : String) : Result Unit := do
  protocolError ("connecting to mitos-power at " ++ self.socketPath ++ ": ")
    (link.connect self.socketPath)
  protocolError "setting read timeout: " link.setReadTimeout
  protocolError "cloning socket to mitos-power: " link.tryClone
  protocolError "setting write timeout: " link.setWriteTimeout
  let line ← protocolError "encoding request to mitos-power: " (json.toString (request method))
  protocolError "writing to mitos-power: " (link.writeAll (line ++ "\n"))

/-- What a response is answered with. -/
def answer (method : String) (value : JsonValue) : Result Unit :=
  if ((value.get "ok").bind JsonValue.asBool).getD false then
    .ok ()
  else
    let message := (((value.get "error").bind (·.get "message")).bind JsonValue.asStr).getD
      "unknown error"
    .error (.protocol ("mitos-power rejected " ++ method ++ ": " ++ message))

/-- The loop of `MitosPowerBackend::call`, for at most `rounds` rounds. -/
def awaitReply (json : SerdeJson) (method : String) : ℕ → ByteReader → Option (Result Unit)
  | 0, _ => none
  | rounds + 1, reader =>
      match reader.readLine with
      | (.error e, _) => some (.error (.protocol ("reading from mitos-power: " ++ e.message)))
      | (.ok (n, raw), reader) =>
          if n = 0 then
            some (.error (.protocol "mitos-power closed the connection without replying"))
          else
            let trimmed := trim raw
            if trimmed.isEmpty then
              awaitReply json method rounds reader
            else
              match json.fromStr trimmed with
              | .error e => some (.error (.protocol ("parsing mitos-power reply: " ++ e)))
              | .ok value =>
                  if (value.get "kind").bind JsonValue.asStr ≠ some "response" then
                    awaitReply json method rounds reader
                  else
                    some (answer method value)

/-- `MitosPowerBackend::call`. -/
def call (self : MitosPowerBackend) (json : SerdeJson) (link : PowerLink) (rounds : ℕ)
    (method : String) : Option (Result Unit) :=
  match self.sendRequest json link method with
  | .error e => some (.error e)
  | .ok () => awaitReply json method rounds link.incoming

/-- `MitosPowerBackend::suspend`. -/
def suspend (self : MitosPowerBackend) (json : SerdeJson) (link : PowerLink) (rounds : ℕ) :
    Option (Result Unit) :=
  self.call json link rounds "Suspend"

/-- `MitosPowerBackend::poweroff`. -/
def poweroff (self : MitosPowerBackend) (json : SerdeJson) (link : PowerLink) (rounds : ℕ) :
    Option (Result Unit) :=
  self.call json link rounds "Poweroff"

/-- `MitosPowerBackend::reboot`. -/
def reboot (self : MitosPowerBackend) (json : SerdeJson) (link : PowerLink) (rounds : ℕ) :
    Option (Result Unit) :=
  self.call json link rounds "Reboot"

/-! ## Lines -/

section Lines

variable (json : SerdeJson) (method : String)

/-- What the loop makes of a line: nothing, or the end. -/
def judge (line : List UInt8) : Option (Result Unit) :=
  match decodeUtf8 line with
  | none => some (.error (.protocol ("reading from mitos-power: " ++ IoError.invalidUtf8.message)))
  | some text =>
      if (trim text).isEmpty then
        none
      else
        match json.fromStr (trim text) with
        | .error e => some (.error (.protocol ("parsing mitos-power reply: " ++ e)))
        | .ok value =>
            if (value.get "kind").bind JsonValue.asStr ≠ some "response" then
              none
            else
              some (answer method value)

/-- What the loop makes of all the lines of a connection that is then closed. -/
def verdict : List (List UInt8) → Result Unit
  | [] => .error (.protocol "mitos-power closed the connection without replying")
  | line :: rest => (judge json method line).getD (verdict rest)

/-- The lines that come in. -/
def linesOf (bytes : List UInt8) : List (List UInt8) :=
  linesThrough (· = newline) bytes

theorem awaitReply_nil (rounds : ℕ) :
    awaitReply json method (rounds + 1) ⟨[], none⟩ = some (verdict json method []) := by
  have hdecode : decodeUtf8 [] = some [] := decodeUtf8_encode []
  rw [awaitReply, readLine_closed]
  simp only [takeThrough, hdecode, List.length_nil, if_true, verdict]

/-- One round: the line decides, or the loop goes on behind it. -/
theorem awaitReply_line {bytes : List UInt8} (h : bytes ≠ []) (rounds : ℕ) :
    awaitReply json method (rounds + 1) ⟨bytes, none⟩
      = match judge json method (takeThrough (· = newline) bytes).1 with
        | some answer => some answer
        | none => awaitReply json method rounds ⟨(takeThrough (· = newline) bytes).2, none⟩ := by
  have hline : (takeThrough (· = newline) bytes).1.length ≠ 0 := by
    rw [Ne, List.length_eq_zero_iff]
    exact takeThrough_ne_nil _ h
  rw [awaitReply, readLine_closed, judge]
  cases decodeUtf8 (takeThrough (· = newline) bytes).1 with
  | none => rfl
  | some text =>
      simp only [if_neg hline]
      by_cases hblank : (trim text).isEmpty = true
      · simp only [hblank, if_true]
      · simp only [hblank, Bool.false_eq_true, if_false]
        cases json.fromStr (trim text) with
        | error e => rfl
        | ok value =>
            by_cases hkind : (value.get "kind").bind JsonValue.asStr = some "response"
            · simp only [hkind, ne_eq, not_true, if_false]
            · simp only [ne_eq, hkind, not_false_iff, if_true]

/-- The loop ends on every stream that ends, with the verdict on its lines. -/
theorem awaitReply_eq_verdict {bytes : List UInt8} {rounds : ℕ} (h : bytes.length < rounds) :
    awaitReply json method rounds ⟨bytes, none⟩ = some (verdict json method (linesOf bytes)) := by
  induction rounds generalizing bytes with
  | zero => exact absurd h (Nat.not_lt_zero _)
  | succ rounds ih =>
      by_cases hbytes : bytes = []
      · subst hbytes
        exact awaitReply_nil json method rounds
      · rw [awaitReply_line json method hbytes, linesOf, linesThrough_cons _ hbytes, verdict]
        cases judge json method (takeThrough (· = newline) bytes).1 with
        | some answer => rfl
        | none =>
            have hline := List.length_pos_of_ne_nil (takeThrough_ne_nil (· = newline) hbytes)
            have hsplit := length_takeThrough (· = newline) bytes
            exact ih (by omega)

/-! ## What a line can be -/

/-- Nothing but white space. -/
def Blank (line : List UInt8) : Prop :=
  ∃ text, decodeUtf8 line = some text ∧ trim text = []

/-- A JSON value without a `kind` that is the string `response`. -/
def Unrelated (line : List UInt8) : Prop :=
  ∃ text value, decodeUtf8 line = some text ∧ trim text ≠ []
    ∧ json.fromStr (trim text) = .ok value ∧ value.get "kind" ≠ some (.string "response")

/-- No text, or no JSON. -/
def Malformed (line : List UInt8) : Prop :=
  decodeUtf8 line = none ∨ ∃ text e, decodeUtf8 line = some text ∧ trim text ≠ []
    ∧ json.fromStr (trim text) = .error e

/-- A response. -/
def Responds (line : List UInt8) (value : JsonValue) : Prop :=
  ∃ text, decodeUtf8 line = some text ∧ trim text ≠ []
    ∧ json.fromStr (trim text) = .ok value ∧ value.get "kind" = some (.string "response")

/-- The first line that is neither blank nor unrelated. -/
def FirstDeciding (lines : List (List UInt8)) (line : List UInt8) : Prop :=
  ∃ before after, lines = before ++ line :: after
    ∧ (∀ l ∈ before, Blank l ∨ Unrelated json l) ∧ ¬ (Blank line ∨ Unrelated json line)

theorem bind_asStr_iff {value : Option JsonValue} {s : String} :
    value.bind JsonValue.asStr = some s ↔ value = some (.string s) := by
  cases value with
  | none => simp
  | some value => cases value <;> simp [JsonValue.asStr]

theorem answer_eq_ok_iff {value : JsonValue} :
    answer method value = .ok () ↔ value.get "ok" = some (.bool true) := by
  have hok : ((value.get "ok").bind JsonValue.asBool).getD false = true ↔
      value.get "ok" = some (.bool true) := by
    cases value.get "ok" with
    | none => simp
    | some value => cases value <;> simp [JsonValue.asBool]
  unfold answer
  rw [← hok]
  split
  · rename_i h
    exact iff_of_true rfl h
  · rename_i h
    exact iff_of_false (by simp) h

theorem judge_of_blank {line : List UInt8} (h : Blank line) : judge json method line = none := by
  obtain ⟨text, htext, hblank⟩ := h
  simp only [judge, htext, hblank, List.isEmpty_nil, if_true]

theorem judge_of_unrelated {line : List UInt8} (h : Unrelated json line) :
    judge json method line = none := by
  obtain ⟨text, value, htext, hblank, hvalue, hkind⟩ := h
  have hnot : ¬ (trim text).isEmpty = true := by simpa using hblank
  have hother : ¬ (value.get "kind").bind JsonValue.asStr = some "response" :=
    fun h => hkind (bind_asStr_iff.1 h)
  simp only [judge, htext, if_neg hnot, hvalue, ne_eq, hother, not_false_iff, if_true]

theorem judge_of_malformed {line : List UInt8} (h : Malformed json line) :
    ∃ e, judge json method line = some (.error e) := by
  rcases h with hnone | ⟨text, e, htext, hblank, hvalue⟩
  · exact ⟨_, by simp only [judge, hnone]; rfl⟩
  · have hnot : ¬ (trim text).isEmpty = true := by simpa using hblank
    exact ⟨_, by simp only [judge, htext, if_neg hnot, hvalue]; rfl⟩

theorem judge_of_responds {line : List UInt8} {value : JsonValue}
    (h : Responds json line value) : judge json method line = some (answer method value) := by
  obtain ⟨text, htext, hblank, hvalue, hkind⟩ := h
  have hnot : ¬ (trim text).isEmpty = true := by simpa using hblank
  have hresponse := bind_asStr_iff.2 hkind
  simp only [judge, htext, if_neg hnot, hvalue, hresponse, ne_eq, not_true, if_false]

/-- There is nothing else a line can be. -/
theorem line_cases (line : List UInt8) :
    (Blank line ∨ Unrelated json line) ∨ Malformed json line
      ∨ ∃ value, Responds json line value := by
  cases htext : decodeUtf8 line with
  | none => exact Or.inr (Or.inl (Or.inl htext))
  | some text =>
      by_cases hblank : trim text = []
      · exact Or.inl (Or.inl ⟨text, htext, hblank⟩)
      · cases hvalue : json.fromStr (trim text) with
        | error e => exact Or.inr (Or.inl (Or.inr ⟨text, e, htext, hblank, hvalue⟩))
        | ok value =>
            by_cases hkind : value.get "kind" = some (.string "response")
            · exact Or.inr (Or.inr ⟨value, text, htext, hblank, hvalue, hkind⟩)
            · exact Or.inl (Or.inr ⟨text, value, htext, hblank, hvalue, hkind⟩)

/-- A line is passed over exactly if it is blank or unrelated. -/
theorem judge_eq_none_iff {line : List UInt8} :
    judge json method line = none ↔ Blank line ∨ Unrelated json line := by
  constructor
  · intro hnone
    rcases line_cases json line with hskip | hmalformed | ⟨value, hresponds⟩
    · exact hskip
    · obtain ⟨e, hsome⟩ := judge_of_malformed json method hmalformed
      rw [hnone] at hsome
      cases hsome
    · rw [judge_of_responds json method hresponds] at hnone
      cases hnone
  · rintro (hblank | hunrelated)
    · exact judge_of_blank json method hblank
    · exact judge_of_unrelated json method hunrelated

/-! ## What the lines come to -/

theorem verdict_skip {before lines : List (List UInt8)}
    (h : ∀ l ∈ before, Blank l ∨ Unrelated json l) :
    verdict json method (before ++ lines) = verdict json method lines := by
  induction before with
  | nil => rfl
  | cons line before ih =>
      rw [List.forall_mem_cons] at h
      rw [List.cons_append, verdict, (judge_eq_none_iff json method).2 h.1, Option.getD_none,
        ih h.2]

theorem verdict_of_firstDeciding {lines : List (List UInt8)} {line : List UInt8}
    (h : FirstDeciding json lines line) :
    judge json method line = some (verdict json method lines) := by
  obtain ⟨before, after, rfl, hbefore, hline⟩ := h
  rw [verdict_skip json method hbefore, verdict]
  cases hjudge : judge json method line with
  | none => exact absurd ((judge_eq_none_iff json method).1 hjudge) hline
  | some answer => rfl

/-- What comes after a line that decides is never looked at. -/
theorem verdict_cut {line : List UInt8} (h : ¬ (Blank line ∨ Unrelated json line))
    (before rest : List (List UInt8)) :
    verdict json method (before ++ line :: rest) = verdict json method (before ++ [line]) := by
  induction before with
  | nil =>
      simp only [List.nil_append, verdict]
      cases hjudge : judge json method line with
      | none => exact absurd ((judge_eq_none_iff json method).1 hjudge) h
      | some answer => rfl
  | cons first before ih => simp only [List.cons_append, verdict, ih]

/-- Either a line decides, or the lines run out. -/
theorem firstDeciding_or_closed (lines : List (List UInt8)) :
    (∃ line, FirstDeciding json lines line)
      ∨ verdict json method lines = verdict json method [] := by
  induction lines with
  | nil => exact Or.inr rfl
  | cons line lines ih =>
      by_cases hline : Blank line ∨ Unrelated json line
      · rcases ih with ⟨line', before, after, rfl, hbefore, hline'⟩ | hclosed
        · exact Or.inl ⟨line', line :: before, after, rfl, by simpa using ⟨hline, hbefore⟩, hline'⟩
        · refine Or.inr (Eq.trans ?_ hclosed)
          rw [verdict, (judge_eq_none_iff json method).2 hline, Option.getD_none]
      · exact Or.inl ⟨line, [], lines, rfl, by simp, hline⟩

/-- The call succeeds exactly if the line that decides is a response that says so. -/
theorem verdict_eq_ok_iff (lines : List (List UInt8)) :
    verdict json method lines = .ok () ↔ ∃ line value, FirstDeciding json lines line
      ∧ Responds json line value ∧ value.get "ok" = some (.bool true) := by
  constructor
  · intro hok
    rcases firstDeciding_or_closed json method lines with ⟨line, hfirst⟩ | hclosed
    · have hjudge := verdict_of_firstDeciding json method hfirst
      rcases line_cases json line with hskip | hmalformed | ⟨value, hresponds⟩
      · obtain ⟨before, after, -, -, hline⟩ := hfirst
        exact absurd hskip hline
      · obtain ⟨e, herror⟩ := judge_of_malformed json method hmalformed
        rw [hjudge, hok] at herror
        cases herror
      · rw [judge_of_responds json method hresponds, hok] at hjudge
        exact ⟨line, value, hfirst, hresponds,
          (answer_eq_ok_iff method).1 (Option.some.inj hjudge)⟩
    · rw [hclosed] at hok
      cases hok
  · rintro ⟨line, value, hfirst, hresponds, htrue⟩
    have hjudge := verdict_of_firstDeciding json method hfirst
    rw [judge_of_responds json method hresponds, (answer_eq_ok_iff method).2 htrue] at hjudge
    exact (Option.some.inj hjudge).symm

theorem exists_error_of_ne_ok {answer : Result Unit} (h : answer ≠ .ok ()) :
    ∃ e, answer = .error e := by
  cases answer with
  | ok u => exact absurd rfl h
  | error e => exact ⟨e, rfl⟩

/-- Once the request is sent, the call answers what the lines say. -/
theorem call_eq_verdict (self : MitosPowerBackend) {link : PowerLink} {rounds : ℕ}
    (hsent : self.sendRequest json link method = .ok ()) (hclosed : link.incoming.failure = none)
    (hrounds : link.incoming.bytes.length < rounds) :
    self.call json link rounds method
      = some (verdict json method (linesOf link.incoming.bytes)) := by
  have hincoming : link.incoming = ⟨link.incoming.bytes, none⟩ := by rw [← hclosed]
  rw [call, hsent]
  dsimp only
  rw [hincoming]
  exact awaitReply_eq_verdict json method hrounds

/-- Nothing but a response that says `true` makes the call succeed: for everything mitos-power
    can send before it closes the connection, the loop ends; it succeeds exactly if the first line
    that is neither blank nor unrelated is a response whose `ok` is `true`, and fails if that line
    is malformed or another response, and if there is none; and the lines after it do not
    matter. -/
theorem call_believes_real_reply (self : MitosPowerBackend) (link : PowerLink)
    (hsent : self.sendRequest json link method = .ok ())
    (hclosed : link.incoming.failure = none) :
    ∃ answer,
      (∀ rounds, link.incoming.bytes.length < rounds →
        self.call json link rounds method = some answer)
      ∧ (answer = .ok () ↔ ∃ line value,
        FirstDeciding json (linesOf link.incoming.bytes) line
          ∧ Responds json line value ∧ value.get "ok" = some (.bool true))
      ∧ (∀ line, FirstDeciding json (linesOf link.incoming.bytes) line →
        (Malformed json line
          ∨ ∃ value, Responds json line value ∧ value.get "ok" ≠ some (.bool true)) →
        ∃ e, answer = .error e)
      ∧ ((∀ line, ¬ FirstDeciding json (linesOf link.incoming.bytes) line) →
        ∃ e, answer = .error e)
      ∧ ∀ link' before line after after', self.sendRequest json link' method = .ok () →
        link'.incoming.failure = none →
        linesOf link.incoming.bytes = before ++ line :: after →
        linesOf link'.incoming.bytes = before ++ line :: after' →
        ¬ (Blank line ∨ Unrelated json line) →
        ∀ rounds, link'.incoming.bytes.length < rounds →
          self.call json link' rounds method = some answer := by
  refine ⟨verdict json method (linesOf link.incoming.bytes),
    fun rounds => call_eq_verdict json method self hsent hclosed,
    verdict_eq_ok_iff json method _, ?_, ?_, ?_⟩
  · intro line hfirst hbad
    refine exists_error_of_ne_ok fun hok => ?_
    have hjudge := verdict_of_firstDeciding json method hfirst
    rw [hok] at hjudge
    rcases hbad with hmalformed | ⟨value, hresponds, hfalse⟩
    · obtain ⟨e, herror⟩ := judge_of_malformed json method hmalformed
      rw [hjudge] at herror
      cases herror
    · rw [judge_of_responds json method hresponds] at hjudge
      exact hfalse ((answer_eq_ok_iff method).1 (Option.some.inj hjudge))
  · intro hnone
    refine exists_error_of_ne_ok fun hok => ?_
    obtain ⟨line, value, hfirst, -⟩ := (verdict_eq_ok_iff json method _).1 hok
    exact hnone line hfirst
  · intro link' before line after after' hsent' hclosed' hlines hlines' hline rounds hrounds
    rw [call_eq_verdict json method self hsent' hclosed' hrounds, hlines, hlines']
    rw [verdict_cut json method hline before after, verdict_cut json method hline before after']

end Lines

/-- A response that says `true`, as mitos-power writes it. -/
def okText : List Char :=
  ['\x7b', '"', 'k', 'i', 'n', 'd', '"', ':', '"', 'r', 'e', 's', 'p', 'o', 'n', 's', 'e', '"', ',',
    '"', 'o', 'k', '"', ':', 't', 'r', 'u', 'e', '\x7d']

/-- `serde_json`, on that text and on an empty array. -/
def okJson : SerdeJson where
  toString _ := .ok ""
  fromStr text :=
    if text = okText then
      .ok (.object [("kind", .string "response"), ("ok", .bool true)])
    else if text = ['[', ']'] then
      .ok (.array [])
    else
      .error "expected value"

/-- A connection on which an empty line, an array, the response and half an array arrive. -/
def okLink : PowerLink where
  connect _ := .ok ()
  setReadTimeout := .ok ()
  tryClone := .ok ()
  setWriteTimeout := .ok ()
  writeAll _ := .ok ()
  incoming :=
    ⟨['\n', '[', ']', '\n'].flatMap String.utf8EncodeChar
      ++ (okText ++ ['\n', '[']).flatMap String.utf8EncodeChar, none⟩

/-- The response is believed, past the lines before it and whatever comes after. -/
theorem call_believes_ok_reply :
    ∃ rounds, (⟨"/run/mitos-power.sock"⟩ : MitosPowerBackend).call okJson okLink rounds "Suspend"
      = some (.ok ()) := by
  obtain ⟨answer, hcall, hok, -⟩ :=
    call_believes_real_reply okJson "Suspend" ⟨"/run/mitos-power.sock"⟩ okLink rfl rfl
  have hblank : Blank (['\n'].flatMap String.utf8EncodeChar) :=
    ⟨['\n'], decodeUtf8_encode _, by decide⟩
  have harray : Unrelated okJson (['[', ']', '\n'].flatMap String.utf8EncodeChar) :=
    ⟨['[', ']', '\n'], .array [], decodeUtf8_encode _, by decide, by rfl, by simp [JsonValue.get]⟩
  have hresponds : Responds okJson ((okText ++ ['\n']).flatMap String.utf8EncodeChar)
      (.object [("kind", .string "response"), ("ok", .bool true)]) :=
    ⟨okText ++ ['\n'], decodeUtf8_encode _, by decide, by rfl, by rfl⟩
  have hlines : linesOf okLink.incoming.bytes
      = [['\n'].flatMap String.utf8EncodeChar, ['[', ']', '\n'].flatMap String.utf8EncodeChar]
        ++ (okText ++ ['\n']).flatMap String.utf8EncodeChar
          :: [['['].flatMap String.utf8EncodeChar] := by
    decide
  have hanswer : answer = .ok () := by
    refine hok.2 ⟨_, _, ⟨_, _, hlines, ?_, ?_⟩, hresponds, rfl⟩
    · intro l hl
      rcases List.mem_cons.1 hl with rfl | hl
      · exact Or.inl hblank
      · rw [List.mem_singleton.1 hl]
        exact Or.inr harray
    · rw [← judge_eq_none_iff okJson "Suspend", judge_of_responds okJson "Suspend" hresponds]
      simp
  exact ⟨_, (hcall _ (Nat.lt_succ_self _)).trans (congrArg some hanswer)⟩

end MitosPowerBackend

end MitosSession
