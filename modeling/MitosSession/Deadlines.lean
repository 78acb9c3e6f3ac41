import MitosSession.Policy

set_option autoImplicit false

/-! # Deadlines that overflow

`Instant + Duration` panics when the sum does not fit: an `Instant` counts its seconds in a signed
64-bit integer. The durations come from the configuration, which nobody bounds. This file repeats
the three functions that compute a deadline with that addition in its place, `none` being the
panic, and says for every state when they return. When they do, they return what the rest of this
development takes them to return. -/

namespace MitosSession

/-- The first instant that does not exist, `2 ^ 63` seconds. -/
def instantLimit : ℕ := 2 ^ 63 * 1000000000

/-- `Instant + Duration`; `none` is the panic on overflow. -/
def Instant.add? (now : Instant) (d : Duration) : Option Instant :=
  if now + d < instantLimit then some (now + d) else none

/-! ## The functions that set a deadline -/

/-- `ElevationTimeouts::start_prompt`. -/
def ElevationTimeouts.startPrompt? (self : ElevationTimeouts) (id : ElevationRequestId)
    (now : Instant) (timeout : Duration) : Option ElevationTimeouts := do
  let expiry ← Instant.add? now timeout
  return { self with promptExpiry := self.promptExpiry.insert id expiry }

/-- `ElevationTimeouts::start_lockout`. -/
def ElevationTimeouts.startLockout? (self : ElevationTimeouts) (session : SessionId)
    (now : Instant) (lockout : Duration) : Option ElevationTimeouts := do
  let expiry ← Instant.add? now lockout
  return { self with lockoutExpiry := self.lockoutExpiry.insert session expiry }

/-- `LockTimeouts::start_lockout`. -/
def LockTimeouts.startLockout? (self : LockTimeouts) (session : SessionId) (now : Instant)
    (lockout : Duration) : Option LockTimeouts := do
  let expiry ← Instant.add? now lockout
  return { self with lockoutExpiry := self.lockoutExpiry.insert session expiry }

/-- `ElevationManager::begin`. -/
def ElevationManager.begin? (self : ElevationManager) (sessionId : SessionId)
    (compositorConn requesterConn : ConnId) (policy : ElevationPolicy) (authPolicy : AuthPolicy)
    (now : Instant) : Option (Result (ElevationManager × ElevationRequestId)) :=
  if (self.auth sessionId).lockedOut then
    some (.error (.lockedOut authPolicy.lockout.asSecs))
  else
    let pendingForSession := self.pending.countVal fun p => p.sessionId = sessionId
    if pendingForSession ≥ policy.maxPendingPerSession then
      some (.error (.permissionDenied
        ("session " ++ toString sessionId ++ " already has " ++ toString pendingForSession
          ++ " elevation prompt(s) pending")))
    else do
      let id := self.nextId + 1
      let pending := self.pending.insert id { sessionId, compositorConn, requesterConn }
      let timeouts ← self.timeouts.startPrompt? id now policy.promptTimeout
      return .ok ({ self with nextId := id, pending, timeouts }, id)

/-- `ElevationManager::attempt`. -/
def ElevationManager.attempt? (self : ElevationManager) (id : ElevationRequestId)
    (authenticator : Authenticator) (request : AuthRequest) (authPolicy : AuthPolicy)
    (now : Instant) : Option (Option ElevationAttempt) :=
  match self.pending.lookup id with
  | none => some none
  | some p =>
    let checked := check authenticator request authPolicy (self.auth p.sessionId).attempts
    let entry := { self.auth p.sessionId with attempts := checked.2 }
    let resolved (terminal : Bool) : ElevationOutcome :=
      { sessionId := p.sessionId
        compositorConn := p.compositorConn
        requesterConn := p.requesterConn
        outcome := checked.1
        terminal }
    match checked.1 with
    | .success =>
      some (some
        { manager := { self with
            sessionAuth :=
              self.sessionAuth.insert p.sessionId { entry with attempts := 0 } }.close id
          resolved := resolved true
          calls := [request] })
    | .lockedOut _ => do
      let timeouts ← self.timeouts.startLockout? p.sessionId now authPolicy.lockout
      some (some
        { manager := { self with
            sessionAuth := self.sessionAuth.insert p.sessionId { entry with lockedOut := true }
            timeouts }.close id
          resolved := resolved true
          calls := [request] })
    | .failure _ =>
      some (some
        { manager := { self with sessionAuth := self.sessionAuth.insert p.sessionId entry }
          resolved := resolved false
          calls := [request] })
    | _ =>
      some (some
        { manager := { self with
            sessionAuth := self.sessionAuth.insert p.sessionId entry }.close id
          resolved := resolved true
          calls := [request] })

/-- `LockManager::attempt_unlock`. -/
def LockManager.attemptUnlock? (self : LockManager) (authenticator : Authenticator)
    (request : AuthRequest) (authPolicy : AuthPolicy) (now : Instant) : Option UnlockAttempt :=
  let session := request.sessionId
  let entry := self.entry session
  if entry.state = .lockedOut then
    some
      { manager := { self with locks := self.locks.insert session entry }
        outcome := .lockedOut authPolicy.lockout.asSecs
        calls := [] }
  else
    let checked := check authenticator request authPolicy entry.attempts
    let entry := { entry with attempts := checked.2 }
    match checked.1 with
    | .success =>
      some
        { manager :=
            { self with locks := self.locks.insert session { entry with state := .unlocked } }
          outcome := .success
          calls := [request] }
    | .lockedOut secs => do
      let timeouts ← self.timeouts.startLockout? session now authPolicy.lockout
      some
        { manager :=
            { self with
              locks := self.locks.insert session { entry with state := .lockedOut }
              timeouts }
          outcome := .lockedOut secs
          calls := [request] }
    | outcome =>
      some
        { manager := { self with locks := self.locks.insert session entry }
          outcome := outcome
          calls := [request] }

/-! ## When a call sets a deadline -/

/-- `begin` opens a prompt: the session is not locked out and has room for one more. -/
def ElevationManager.Admits (self : ElevationManager) (sessionId : SessionId)
    (policy : ElevationPolicy) : Prop :=
  (self.auth sessionId).lockedOut = false
    ∧ self.pending.countVal (fun p => p.sessionId = sessionId) < policy.maxPendingPerSession

/-- The answer to prompt `id` is a wrong one and the session has no attempt left after it. -/
def ElevationManager.RunsOut (self : ElevationManager) (id : ElevationRequestId)
    (authenticator : Authenticator) (request : AuthRequest) (authPolicy : AuthPolicy) : Prop :=
  ∃ p, self.pending.lookup id = some p
    ∧ authenticator.accepts request = false
    ∧ authPolicy.maxAttempts ≤ wrapU32 ((self.auth p.sessionId).attempts + 1)

/-- The session is not locked out, the password is a wrong one and no attempt is left after it. -/
def LockManager.RunsOut (self : LockManager) (authenticator : Authenticator)
    (request : AuthRequest) (authPolicy : AuthPolicy) : Prop :=
  (self.entry request.sessionId).state ≠ .lockedOut
    ∧ authenticator.accepts request = false
    ∧ authPolicy.maxAttempts ≤ wrapU32 ((self.entry request.sessionId).attempts + 1)

/-! ## A call returns when the deadline it sets fits -/

section Returns

variable {now : Instant} {request : AuthRequest} {authenticator : Authenticator}
  {authPolicy : AuthPolicy}

theorem Instant.add?_of_lt {d : Duration} (h : now + d < instantLimit) :
    Instant.add? now d = some (now + d) :=
  if_pos h

theorem Instant.add?_of_le {d : Duration} (h : instantLimit ≤ now + d) :
    Instant.add? now d = none :=
  if_neg (Nat.not_lt.2 h)

namespace ElevationManager

variable {self : ElevationManager} {id : ElevationRequestId} {sessionId : SessionId}
  {compositorConn requesterConn : ConnId} {policy : ElevationPolicy}

theorem begin?_eq_some
    (h : self.Admits sessionId policy → now + policy.promptTimeout < instantLimit) :
    self.begin? sessionId compositorConn requesterConn policy authPolicy now
      = some (self.begin sessionId compositorConn requesterConn policy authPolicy now) := by
  unfold begin? begin
  cases hout : (self.auth sessionId).lockedOut with
  | true => rfl
  | false =>
      simp only [Bool.false_eq_true, if_false]
      split
      · rfl
      · rename_i hroom
        have hfits := h ⟨hout, Nat.lt_of_not_le hroom⟩
        simp only [ElevationTimeouts.startPrompt?, Instant.add?_of_lt hfits]
        rfl

theorem begin?_eq_none (h : self.Admits sessionId policy)
    (hlate : instantLimit ≤ now + policy.promptTimeout) :
    self.begin? sessionId compositorConn requesterConn policy authPolicy now = none := by
  obtain ⟨hout, hroom⟩ := h
  simp only [begin?, hout, Bool.false_eq_true, if_false, ge_iff_le, if_neg (Nat.not_le.2 hroom),
    ElevationTimeouts.startPrompt?, Instant.add?_of_le hlate]
  rfl

theorem attempt?_eq_some
    (h : self.RunsOut id authenticator request authPolicy
      → now + authPolicy.lockout < instantLimit) :
    self.attempt? id authenticator request authPolicy now
      = some (self.attempt id authenticator request authPolicy now) := by
  unfold attempt? attempt
  cases hp : self.pending.lookup id with
  | none => rfl
  | some p =>
      cases ha : authenticator.accepts request with
      | true => simp only [check_of_accepts authPolicy _ ha]
      | false =>
          have hcheck := check_of_rejects authPolicy (self.auth p.sessionId).attempts ha
          by_cases hlimit : wrapU32 ((self.auth p.sessionId).attempts + 1) ≥ authPolicy.maxAttempts
          · have hfits := h ⟨p, hp, ha, hlimit⟩
            rw [if_pos hlimit] at hcheck
            simp only [hcheck, ElevationTimeouts.startLockout?, Instant.add?_of_lt hfits]
            rfl
          · rw [if_neg hlimit] at hcheck
            simp only [hcheck]

theorem attempt?_eq_none (h : self.RunsOut id authenticator request authPolicy)
    (hlate : instantLimit ≤ now + authPolicy.lockout) :
    self.attempt? id authenticator request authPolicy now = none := by
  obtain ⟨p, hp, ha, hlimit⟩ := h
  simp only [attempt?, hp, check_of_rejects authPolicy _ ha, ge_iff_le, if_pos hlimit,
    ElevationTimeouts.startLockout?, Instant.add?_of_le hlate]
  rfl

end ElevationManager

namespace LockManager

variable {self : LockManager}

theorem attemptUnlock?_eq_some
    (h : self.RunsOut authenticator request authPolicy
      → now + authPolicy.lockout < instantLimit) :
    self.attemptUnlock? authenticator request authPolicy now
      = some (self.attemptUnlock authenticator request authPolicy now) := by
  unfold attemptUnlock? attemptUnlock
  by_cases hout : (self.entry request.sessionId).state = .lockedOut
  · simp only [if_pos hout]
  · simp only [if_neg hout]
    cases ha : authenticator.accepts request with
    | true => simp only [check_of_accepts authPolicy _ ha]
    | false =>
        have hcheck := check_of_rejects authPolicy (self.entry request.sessionId).attempts ha
        by_cases hlimit :
          wrapU32 ((self.entry request.sessionId).attempts + 1) ≥ authPolicy.maxAttempts
        · have hfits := h ⟨hout, ha, hlimit⟩
          rw [if_pos hlimit] at hcheck
          simp only [hcheck, LockTimeouts.startLockout?, Instant.add?_of_lt hfits]
          rfl
        · rw [if_neg hlimit] at hcheck
          simp only [hcheck]

theorem attemptUnlock?_eq_none (h : self.RunsOut authenticator request authPolicy)
    (hlate : instantLimit ≤ now + authPolicy.lockout) :
    self.attemptUnlock? authenticator request authPolicy now = none := by
  obtain ⟨hout, ha, hlimit⟩ := h
  simp only [attemptUnlock?, if_neg hout, check_of_rejects authPolicy _ ha, ge_iff_le,
    if_pos hlimit, LockTimeouts.startLockout?, Instant.add?_of_le hlate]
  rfl

end LockManager

/-- Of an optional result that is there when a condition holds and missing when it does not. -/
private theorem isSome_iff_imp {α : Type} {o : Option α} {a : α} {sets : Prop} {t : Instant}
    (hsome : (sets → t < instantLimit) → o = some a)
    (hnone : sets → instantLimit ≤ t → o = none) :
    o.isSome = true ↔ (sets → t < instantLimit) := by
  constructor
  · intro h hsets
    by_contra hlate
    rw [hnone hsets (Nat.le_of_not_lt hlate)] at h
    cases h
  · intro h
    rw [hsome h]
    rfl

end Returns

/-- Whatever is configured and whenever they are called, `begin`, `attempt` and `attempt_unlock`
    return from every state exactly if the deadline they are about to set, if they set one, is
    before `2 ^ 63` seconds. -/
theorem deadline_calls_return_iff (settings : Settings) (now : Instant) :
    (∀ (elevation : ElevationManager) (sessionId : SessionId)
        (compositorConn requesterConn : ConnId),
      (elevation.begin? sessionId compositorConn requesterConn
          (ElevationPolicy.from settings.elevation) (elevationAuthPolicy settings.elevation)
          now).isSome = true ↔
        (elevation.Admits sessionId (ElevationPolicy.from settings.elevation)
          → now + Duration.fromSecs settings.elevation.promptTimeoutSecs < instantLimit))
    ∧ (∀ (elevation : ElevationManager) (id : ElevationRequestId) (authenticator : Authenticator)
        (request : AuthRequest),
      (elevation.attempt? id authenticator request (elevationAuthPolicy settings.elevation)
          now).isSome = true ↔
        (elevation.RunsOut id authenticator request (elevationAuthPolicy settings.elevation)
          → now + Duration.fromSecs settings.elevation.lockoutSecs < instantLimit))
    ∧ (∀ (locks : LockManager) (authenticator : Authenticator) (request : AuthRequest),
      (locks.attemptUnlock? authenticator request
          (authPolicy settings.authentication settings.lock) now).isSome = true ↔
        (locks.RunsOut authenticator request (authPolicy settings.authentication settings.lock)
          → now + Duration.fromSecs settings.lock.lockoutSecs < instantLimit)) := by
  refine ⟨?_, ?_, ?_⟩
  · intro elevation sessionId compositorConn requesterConn
    exact isSome_iff_imp ElevationManager.begin?_eq_some ElevationManager.begin?_eq_none
  · intro elevation id authenticator request
    exact isSome_iff_imp ElevationManager.attempt?_eq_some ElevationManager.attempt?_eq_none
  · intro locks authenticator request
    exact isSome_iff_imp LockManager.attemptUnlock?_eq_some LockManager.attemptUnlock?_eq_none

/-- The settings of a file that asks for the longest prompt timeout TOML can say. -/
def endlessPrompts : Settings :=
  { (default : Settings) with
    elevation := { (default : ElevationSettings) with promptTimeoutSecs := 9223372036854775807 } }

/-- A file that asks for the longest prompt timeout is loaded, and one second after boot the first
    request for a prompt panics. -/
theorem deadline_calls_panic :
    ¬ ∀ (files : ConfigFiles) (path : Option String) (settings : Settings),
      load files path = .ok settings
        → settings.elevation.promptTimeoutSecs < 2 ^ 63
        → settings.elevation.lockoutSecs < 2 ^ 63
        → settings.lock.lockoutSecs < 2 ^ 63
        → ∀ now : Instant, 0 < now → now < instantLimit
        → (∀ (elevation : ElevationManager) (sessionId : SessionId)
            (compositorConn requesterConn : ConnId),
            (elevation.begin? sessionId compositorConn requesterConn
              (ElevationPolicy.from settings.elevation) (elevationAuthPolicy settings.elevation)
              now).isSome = true)
          ∧ (∀ (elevation : ElevationManager) (id : ElevationRequestId)
            (authenticator : Authenticator) (request : AuthRequest),
            (elevation.attempt? id authenticator request
              (elevationAuthPolicy settings.elevation) now).isSome = true)
          ∧ (∀ (locks : LockManager) (authenticator : Authenticator) (request : AuthRequest),
            (locks.attemptUnlock? authenticator request
              (authPolicy settings.authentication settings.lock) now).isSome = true) := by
  intro h
  have hbegin := (h
    { configVar := none
      fileExists := fun _ => true
      readToString := fun _ => .ok "[elevation]\nprompt_timeout_secs = 9223372036854775807\n"
      fromToml := fun _ => .ok endlessPrompts }
    none endlessPrompts rfl (by decide) (by decide) (by decide) 1000000000 (by decide)
    (by decide)).1 {} 1 7 9
  revert hbegin
  decide

end MitosSession
