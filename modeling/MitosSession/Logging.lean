import Mathlib.Data.Nat.Digits.Defs
import MitosSession.Authentication
import MitosSession.Text

set_option autoImplicit false

/-! # Audit events

`logging/audit.rs`: the events that the daemon hands to `audit_log`, and the texts `main.rs` puts
into them. What becomes of an event is left out: `audit_log` appends it to the configured file as a
line, or hands it to `tracing`.

The target of an event about an elevation prompt is a text that names the session and the request.
`promptOpen` reads a trail of such events, by their texts alone, for whether a prompt is open. -/

namespace MitosSession

/-- `logging::AuditEvent`. -/
structure AuditEvent where
  timestampUnix : ℕ
  actorUid : ℕ
  action : String
  target : Option String
  detail : Option String
  outcome : String
deriving DecidableEq

namespace AuditEvent

/-- `AuditEvent::new`, at a reading of the system clock in nanoseconds. -/
def new (systemTime actorUid : ℕ) (action outcome : String) : AuditEvent where
  timestampUnix := Duration.asSecs systemTime
  actorUid := actorUid
  action := action
  target := none
  detail := none
  outcome := outcome

/-- `AuditEvent::target`. -/
def withTarget (self : AuditEvent) (target : String) : AuditEvent :=
  { self with target := some target }

/-- `AuditEvent::detail`. -/
def withDetail (self : AuditEvent) (detail : String) : AuditEvent :=
  { self with detail := some detail }

end AuditEvent

/-- The `Debug` text of an outcome. What `String.quote` escapes is not quite what Rust does, but no
    outcome that is logged is an `Error`. -/
def AuthOutcome.debug : AuthOutcome → String
  | .success => "Success"
  | .failure attemptsRemaining =>
    "Failure \x7b attempts_remaining: " ++ toString attemptsRemaining ++ " \x7d"
  | .lockedOut retryAfterSecs =>
    "LockedOut \x7b retry_after_secs: " ++ toString retryAfterSecs ++ " \x7d"
  | .error message => "Error(" ++ message.quote ++ ")"
  | .cancelled => "Cancelled"

/-- The target of an event about a prompt. -/
def promptTarget (sessionId : SessionId) (requestId : ElevationRequestId) : String :=
  "session=" ++ toString sessionId ++ " request=" ++ toString requestId

/-! ## Reading a trail

What can be told from the texts of the events alone. -/

/-- The text begins like a `Failure`, the only outcome of an answer that leaves its prompt open. -/
def isFailureText (outcome : String) : Bool :=
  "Failure".toList.isPrefixOf outcome.toList

namespace AuditEvent

def opensPrompt (self : AuditEvent) : Bool :=
  self.action = "elevation_request" && self.outcome = "prompted"

def closesPrompt (self : AuditEvent) : Bool :=
  self.action = "elevation_abandoned"
    || (self.action = "elevation_response" && !isFailureText self.outcome)

/-- What an event says about the prompt that `target` names. -/
def track (target : String) (isOpen : Bool) (self : AuditEvent) : Bool :=
  if self.target = some target then
    (isOpen || self.opensPrompt) && !self.closesPrompt
  else
    isOpen

/-- The event is about a credential that was accepted. -/
def grantsAccess (self : AuditEvent) : Bool :=
  (self.action = "unlock_attempt" || self.action = "elevation_response")
    && self.outcome = "Success"

/-- The event is about no credential accepted, and no prompt opened or closed. -/
def isQuiet (self : AuditEvent) : Bool :=
  !self.opensPrompt && !self.closesPrompt && !self.grantsAccess

/-- The event is about this credential: it names the account whose password was asked for, or a
    prompt of the session. -/
def IsAbout (self : AuditEvent) (request : AuthRequest) : Prop :=
  (self.action = "unlock_attempt" ∧ self.target = some request.userName)
    ∨ (self.action = "elevation_response"
      ∧ ∃ id, self.target = some (promptTarget request.sessionId id))

theorem isQuiet_of_action {self : AuditEvent}
    (h : self.action ∉ ["elevation_request", "elevation_response", "elevation_abandoned",
      "unlock_attempt"]) : self.isQuiet = true := by
  simp only [List.mem_cons, List.not_mem_nil, or_false, not_or] at h
  simp [isQuiet, opensPrompt, closesPrompt, grantsAccess, h]

theorem silent_of_isQuiet {self : AuditEvent} (h : self.isQuiet = true) :
    self.opensPrompt = false ∧ self.closesPrompt = false := by
  simp only [isQuiet, Bool.and_eq_true, Bool.not_eq_true'] at h
  exact h.1

theorem grants_of_isQuiet {self : AuditEvent} (h : self.isQuiet = true) :
    self.grantsAccess = false := by
  simp only [isQuiet, Bool.and_eq_true, Bool.not_eq_true'] at h
  exact h.2

theorem grants_of_opens {self : AuditEvent} (h : self.opensPrompt = true) :
    self.grantsAccess = false := by
  simp only [opensPrompt, Bool.and_eq_true, decide_eq_true_eq] at h
  simp [grantsAccess, h]

end AuditEvent

/-- Whether the prompt that `target` names is open after a trail. -/
def promptOpen (trail : List AuditEvent) (target : String) : Bool :=
  trail.foldl (AuditEvent.track target) false

/-! ## The texts -/

theorem toString_inj {m n : ℕ} (h : (toString m).toList = (toString n).toList) : m = n :=
  by
    rw [toList_toString, toList_toString] at h
    have hread := congrArg (fun digits => Nat.ofDigitChars 10 digits 0) h
    simpa using hread

/-- A target names one session and one request. -/
theorem promptTarget_inj {s s' : SessionId} {id id' : ElevationRequestId}
    (h : promptTarget s id = promptTarget s' id') : s = s' ∧ id = id' := by
  have hspace : ∀ n : ℕ, ' ' ∉ (toString n).toList := fun n hmem =>
    absurd (isDigit_of_mem_toString hmem) (by decide)
  have hlist := congrArg String.toList h
  simp only [promptTarget, String.toList_append, List.append_assoc] at hlist
  have hcut : " request=".toList = ' ' :: "request=".toList := rfl
  rw [hcut, List.cons_append, List.cons_append] at hlist
  -- the numbers have no spaces in them, so the only space is where the session's id ends
  have hrequest : ' ' ∉ "request=".toList ++ (toString id).toList := by
    rw [List.mem_append]
    rintro (hmem | hmem)
    · simp at hmem
    · exact hspace id hmem
  obtain ⟨hs, -, hrest⟩ := (List.append_cons_inj_of_notMem (hspace s) hrequest).1
    (List.append_cancel_left hlist)
  exact ⟨toString_inj hs, toString_inj (List.append_cancel_left hrest)⟩

/-- The letter that the text of an outcome begins with. No two outcomes share it. -/
def AuthOutcome.initial : AuthOutcome → Char
  | .success => 'S'
  | .failure _ => 'F'
  | .lockedOut _ => 'L'
  | .error _ => 'E'
  | .cancelled => 'C'

theorem debug_head (outcome : AuthOutcome) :
    outcome.debug.toList.head? = some outcome.initial := by
  cases outcome with
  | success =>
      show "Success".toList.head? = _
      simp [AuthOutcome.initial]
  | failure n =>
      show ("Failure \x7b attempts_remaining: " ++ toString n ++ " \x7d").toList.head? = _
      simp [AuthOutcome.initial, String.toList_append]
  | lockedOut n =>
      show ("LockedOut \x7b retry_after_secs: " ++ toString n ++ " \x7d").toList.head? = _
      simp [AuthOutcome.initial, String.toList_append]
  | error message =>
      show ("Error(" ++ message.quote ++ ")").toList.head? = _
      simp [AuthOutcome.initial, String.toList_append]
  | cancelled =>
      show "Cancelled".toList.head? = _
      simp [AuthOutcome.initial]

theorem debug_eq_success_iff {outcome : AuthOutcome} :
    outcome.debug = "Success" ↔ outcome = .success := by
  constructor
  · intro h
    have hhead := debug_head outcome
    rw [h] at hhead
    cases outcome <;> simp [AuthOutcome.initial] at hhead ⊢
  · rintro rfl
    rfl

theorem failure_debug_toList (n : ℕ) : (AuthOutcome.failure n).debug.toList = "Failure".toList
    ++ (" \x7b attempts_remaining: ".toList ++ (toString n).toList ++ " \x7d".toList) := by
  show ("Failure \x7b attempts_remaining: " ++ toString n ++ " \x7d").toList = _
  simp [String.toList_append]

/-- A refused answer is told from every other outcome by its text. -/
theorem isFailureText_debug {outcome : AuthOutcome} :
    isFailureText outcome.debug = true ↔ ∃ n, outcome = .failure n := by
  constructor
  · intro h
    obtain ⟨rest, hrest⟩ := List.isPrefixOf_iff_prefix.1 h
    have hhead := debug_head outcome
    rw [← hrest] at hhead
    cases outcome <;> simp [AuthOutcome.initial] at hhead ⊢
  · rintro ⟨n, rfl⟩
    exact List.isPrefixOf_iff_prefix.2 ⟨_, (failure_debug_toList n).symm⟩

/-- An event about a credential says `Success` if that was the outcome. -/
theorem AuditEvent.grantsAccess_iff {self : AuditEvent} {outcome : AuthOutcome}
    (haction : self.action = "unlock_attempt" ∨ self.action = "elevation_response")
    (houtcome : self.outcome = outcome.debug) :
    self.grantsAccess = true ↔ outcome = .success := by
  rw [← debug_eq_success_iff, ← houtcome]
  simp [grantsAccess, haction]

end MitosSession
