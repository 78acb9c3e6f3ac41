import MitosSession.Library.Table
import MitosSession.Authentication

set_option autoImplicit false

/-! # The lock manager

The lock state machine of every session (`lock/lock.rs`), with the inhibitor registry
(`lock/inhibitor.rs`) and the lockout and grace timers (`lock/timeout.rs`) it owns. -/

namespace MitosSession

/-! ## Inhibitors -/

/-- `lock::InhibitWhat`. -/
inductive InhibitWhat where
  | idle
  | lock
  | suspend
  | shutdown
deriving DecidableEq

/-- `lock::InhibitMode`. -/
inductive InhibitMode where
  | block
  | delay
deriving DecidableEq

/-- `lock::Inhibitor`. -/
structure Inhibitor where
  id : ℕ
  what : InhibitWhat
  who : String
  why : String
  mode : InhibitMode
deriving DecidableEq

/-- `lock::InhibitorRegistry`. -/
structure InhibitorRegistry where
  inhibitors : Table ℕ Inhibitor := ∅
  nextId : ℕ := 0

namespace InhibitorRegistry

/-- `InhibitorRegistry::add`. -/
def add (self : InhibitorRegistry) (what : InhibitWhat) (who why : String) (mode : InhibitMode) :
    InhibitorRegistry × ℕ :=
  let id := self.nextId + 1
  ({ inhibitors := self.inhibitors.insert id { id, what, who, why, mode }, nextId := id }, id)

/-- `InhibitorRegistry::remove`. -/
def remove (self : InhibitorRegistry) (id : ℕ) : Result InhibitorRegistry :=
  match self.inhibitors.lookup id with
  | some _ => .ok { self with inhibitors := self.inhibitors.erase id }
  | none => .error (.unknownInhibitor id)

/-- `InhibitorRegistry::blocks`. -/
def blocks (self : InhibitorRegistry) (what : InhibitWhat) : Bool :=
  self.inhibitors.values.any fun i => i.what = what ∧ i.mode = .block

/-- `InhibitorRegistry::delays`. -/
def delays (self : InhibitorRegistry) (what : InhibitWhat) : List Inhibitor :=
  self.inhibitors.values.filter fun i => i.what = what ∧ i.mode = .delay

/-- `InhibitorRegistry::list`. -/
def list (self : InhibitorRegistry) : List Inhibitor :=
  self.inhibitors.values

/-- The same registry under two iteration orders. -/
structure Rehash (r r' : InhibitorRegistry) : Prop where
  inhibitors : Table.Rehash r.inhibitors r'.inhibitors
  nextId : r'.nextId = r.nextId

end InhibitorRegistry

/-! ## Policy, states and timers -/

/-- `lock::LockPolicy`. -/
structure LockPolicy where
  enabled : Bool
  lockOnIdle : Bool
  lockOnSuspend : Bool
  gracePeriod : Duration
deriving DecidableEq

/-- `LockPolicy::from`. -/
def LockPolicy.from (s : LockSettings) : LockPolicy :=
  { enabled := s.enabled
    lockOnIdle := s.lockOnIdle
    lockOnSuspend := s.lockOnSuspend
    gracePeriod := Duration.fromSecs s.gracePeriodSecs }

/-- `lock::LockReason`. -/
inductive LockReason where
  | manual
  | idle
  | suspend
deriving DecidableEq

/-- `lock::LockState`. -/
inductive LockState where
  | unlocked
  | locked
  | lockedOut
deriving DecidableEq

/-- `lock::lock::SessionLock`; its `Default` is unlocked with no attempts counted. -/
structure SessionLock where
  state : LockState := .unlocked
  attempts : ℕ := 0
deriving DecidableEq

/-- What `clear_lockout` makes of a session's entry. -/
def SessionLock.cleared (lock : SessionLock) : SessionLock :=
  if lock.state = .lockedOut then { lock with state := .locked, attempts := 0 } else lock

/-- `drain_expired` of both timer sets: the entries that are due at `now`. -/
def drainExpired {K : Type} [DecidableEq K] (map : Table K Instant) (now : Instant) :
    List K × Table K Instant :=
  map.drain fun _ t => decide (t ≤ now)

/-- `lock::LockTimeouts`. -/
structure LockTimeouts where
  graceExpiry : Table SessionId Instant := ∅
  lockoutExpiry : Table SessionId Instant := ∅

namespace LockTimeouts

/-- `LockTimeouts::start_grace`. -/
def startGrace (self : LockTimeouts) (session : SessionId) (now : Instant) (grace : Duration) :
    LockTimeouts :=
  { self with graceExpiry := self.graceExpiry.insert session (now + grace) }

/-- `LockTimeouts::cancel_grace`. -/
def cancelGrace (self : LockTimeouts) (session : SessionId) : LockTimeouts :=
  { self with graceExpiry := self.graceExpiry.erase session }

/-- `LockTimeouts::expired_grace`. -/
def expiredGrace (self : LockTimeouts) (now : Instant) : List SessionId × LockTimeouts :=
  let drained := drainExpired self.graceExpiry now
  (drained.1, { self with graceExpiry := drained.2 })

/-- `LockTimeouts::start_lockout`. -/
def startLockout (self : LockTimeouts) (session : SessionId) (now : Instant)
    (lockout : Duration) : LockTimeouts :=
  { self with lockoutExpiry := self.lockoutExpiry.insert session (now + lockout) }

/-- `LockTimeouts::expired_lockouts`. -/
def expiredLockouts (self : LockTimeouts) (now : Instant) : List SessionId × LockTimeouts :=
  let drained := drainExpired self.lockoutExpiry now
  (drained.1, { self with lockoutExpiry := drained.2 })

end LockTimeouts

/-! ## The manager -/

/-- `lock::LockManager`. -/
structure LockManager where
  locks : Table SessionId SessionLock := ∅
  inhibitors : InhibitorRegistry := {}
  timeouts : LockTimeouts := {}

/-- What `attempt_unlock` leaves behind: the manager, the outcome, and the requests it handed to
    the authenticator. -/
structure UnlockAttempt where
  manager : LockManager
  outcome : AuthOutcome
  calls : List AuthRequest

namespace LockManager

/-- The lock entry of a session, `or_default`. -/
def entry (self : LockManager) (session : SessionId) : SessionLock :=
  (self.locks.lookup session).getD {}

/-- `LockManager::is_locked`. -/
def isLocked (self : LockManager) (session : SessionId) : Bool :=
  match (self.locks.lookup session).map SessionLock.state with
  | some .locked => true
  | some .lockedOut => true
  | _ => false

/-- `LockManager::lock`; on an error the manager is untouched. -/
def lock (self : LockManager) (session : SessionId) (policy : LockPolicy) : Result LockManager :=
  if !policy.enabled then
    .error (.unsupported "locking is disabled in config")
  else if self.inhibitors.blocks .lock then
    .error (.permissionDenied "an application is inhibiting the lock screen")
  else
    .ok { self with
      locks := self.locks.insert session { self.entry session with state := .locked } }

/-- `LockManager::unlock`. -/
def unlock (self : LockManager) (session : SessionId) : LockManager :=
  { self with
    locks := self.locks.modify session fun lock => { lock with state := .unlocked, attempts := 0 }
    timeouts := self.timeouts.cancelGrace session }

/-- `LockManager::attempt_unlock`. -/
def attemptUnlock (self : LockManager) (authenticator : Authenticator) (request : AuthRequest)
    (authPolicy : AuthPolicy) (now : Instant) : UnlockAttempt :=
  let session := request.sessionId
  let entry := self.entry session
  if entry.state = .lockedOut then
    -- refused before the authenticator is asked
    { manager := { self with locks := self.locks.insert session entry }
      outcome := .lockedOut authPolicy.lockout.asSecs
      calls := [] }
  else
    let checked := check authenticator request authPolicy entry.attempts
    let entry := { entry with attempts := checked.2 }
    match checked.1 with
    | .success =>
      { manager :=
          { self with locks := self.locks.insert session { entry with state := .unlocked } }
        outcome := .success
        calls := [request] }
    | .lockedOut secs =>
      { manager :=
          { self with
            locks := self.locks.insert session { entry with state := .lockedOut }
            timeouts := self.timeouts.startLockout session now authPolicy.lockout }
        outcome := .lockedOut secs
        calls := [request] }
    | outcome =>
      { manager := { self with locks := self.locks.insert session entry }
        outcome := outcome
        calls := [request] }

/-- `LockManager::clear_lockout`. -/
def clearLockout (self : LockManager) (session : SessionId) : LockManager :=
  { self with locks := self.locks.modify session SessionLock.cleared }

/-- The lockout sweep of `on_idle_tick`: `expired_lockouts`, then `clear_lockout` for each. -/
def sweepLockouts (self : LockManager) (now : Instant) : LockManager :=
  let expired := self.timeouts.expiredLockouts now
  expired.1.foldl clearLockout { self with timeouts := expired.2 }

/-- `LockManager::add_inhibitor`. -/
def addInhibitor (self : LockManager) (what : InhibitWhat) (who why : String)
    (mode : InhibitMode) : LockManager × ℕ :=
  let added := self.inhibitors.add what who why mode
  ({ self with inhibitors := added.1 }, added.2)

/-- `LockManager::release_inhibitor`. -/
def releaseInhibitor (self : LockManager) (id : ℕ) : Result LockManager :=
  match self.inhibitors.remove id with
  | .ok inhibitors => .ok { self with inhibitors }
  | .error e => .error e

/-- The same manager under two iteration orders. -/
structure Rehash (m m' : LockManager) : Prop where
  locks : Table.Rehash m.locks m'.locks
  inhibitors : InhibitorRegistry.Rehash m.inhibitors m'.inhibitors
  graceExpiry : Table.Rehash m.timeouts.graceExpiry m'.timeouts.graceExpiry
  lockoutExpiry : Table.Rehash m.timeouts.lockoutExpiry m'.timeouts.lockoutExpiry

/-! ## What each operation does to a session's entry -/

theorem isLocked_iff {self : LockManager} {session : SessionId} :
    self.isLocked session = true ↔ (self.entry session).state ≠ .unlocked := by
  unfold isLocked entry
  cases self.locks.lookup session with
  | none => simp
  | some lock =>
      obtain ⟨state, attempts⟩ := lock
      cases state <;> simp

theorem entry_insert (self : LockManager) (k session : SessionId) (lock : SessionLock) :
    { self with locks := self.locks.insert k lock : LockManager }.entry session
      = if session = k then lock else self.entry session := by
  simp only [entry, Table.lookup_insert_eq]
  split <;> rfl

theorem entry_eq_of_lookup {m m' : LockManager} {session : SessionId}
    (h : m'.locks.lookup session = m.locks.lookup session) :
    m'.entry session = m.entry session := by
  simp only [entry, h]

/-- `lock` succeeds exactly when locking is enabled and nothing blocks it. -/
theorem lock_eq_ok_iff {self m' : LockManager} {session : SessionId} {policy : LockPolicy} :
    self.lock session policy = .ok m' ↔
      (policy.enabled = true ∧ self.inhibitors.blocks .lock = false) ∧
        m' = { self with
          locks := self.locks.insert session { self.entry session with state := .locked } } := by
  unfold lock
  cases policy.enabled <;> cases self.inhibitors.blocks .lock <;> simp [eq_comm]

theorem lock_entry {self m' : LockManager} {k session : SessionId} {policy : LockPolicy}
    (h : self.lock k policy = .ok m') :
    m'.entry session
      = if session = k then { self.entry k with state := .locked } else self.entry session := by
  obtain ⟨_, rfl⟩ := lock_eq_ok_iff.1 h
  exact entry_insert ..

theorem lock_frame {self m' : LockManager} {k : SessionId} {policy : LockPolicy}
    (h : self.lock k policy = .ok m') :
    m'.inhibitors = self.inhibitors ∧ m'.timeouts = self.timeouts := by
  obtain ⟨_, rfl⟩ := lock_eq_ok_iff.1 h
  exact ⟨rfl, rfl⟩

theorem lock_isLocked {self m' : LockManager} {k session : SessionId} {policy : LockPolicy}
    (h : self.lock k policy = .ok m') :
    m'.isLocked session = true ↔ session = k ∨ self.isLocked session = true := by
  rw [isLocked_iff, isLocked_iff, lock_entry h]
  by_cases hk : session = k
  · simp [hk]
  · simp [hk]

section Attempt

variable (self : LockManager) (authenticator : Authenticator) (request : AuthRequest)
  (policy : AuthPolicy) (now : Instant)

/-- A locked-out session is refused without asking the authenticator. -/
theorem attemptUnlock_refused (h : (self.entry request.sessionId).state = .lockedOut) :
    self.attemptUnlock authenticator request policy now
      = { manager := { self with
            locks := self.locks.insert request.sessionId (self.entry request.sessionId) }
          outcome := .lockedOut policy.lockout.asSecs
          calls := [] } := by
  simp only [attemptUnlock, h, if_true]

theorem attemptUnlock_accepted (h : (self.entry request.sessionId).state ≠ .lockedOut)
    (ha : authenticator.accepts request = true) :
    self.attemptUnlock authenticator request policy now
      = { manager := { self with
            locks := self.locks.insert request.sessionId { state := .unlocked, attempts := 0 } }
          outcome := .success
          calls := [request] } := by
  simp only [attemptUnlock, if_neg h, check_of_accepts policy _ ha]

/-- A rejected attempt counts; at the limit the session is locked out until `now + lockout`. -/
theorem attemptUnlock_rejected (h : (self.entry request.sessionId).state ≠ .lockedOut)
    (ha : authenticator.accepts request = false) :
    self.attemptUnlock authenticator request policy now
      = if wrapU32 ((self.entry request.sessionId).attempts + 1) ≥ policy.maxAttempts then
          { manager :=
              { self with
                locks := self.locks.insert request.sessionId
                  { state := .lockedOut
                    attempts := wrapU32 ((self.entry request.sessionId).attempts + 1) }
                timeouts := self.timeouts.startLockout request.sessionId now policy.lockout }
            outcome := .lockedOut policy.lockout.asSecs
            calls := [request] }
        else
          { manager :=
              { self with
                locks := self.locks.insert request.sessionId
                  { self.entry request.sessionId with
                    attempts := wrapU32 ((self.entry request.sessionId).attempts + 1) } }
            outcome := .failure
              (policy.maxAttempts - wrapU32 ((self.entry request.sessionId).attempts + 1))
            calls := [request] } := by
  have hcheck := check_of_rejects policy (self.entry request.sessionId).attempts ha
  by_cases hlim : wrapU32 ((self.entry request.sessionId).attempts + 1) ≥ policy.maxAttempts
  · rw [if_pos hlim] at hcheck ⊢
    simp only [attemptUnlock, if_neg h, hcheck]
  · rw [if_neg hlim] at hcheck ⊢
    simp only [attemptUnlock, if_neg h, hcheck]

/-- An attempt touches no other session. -/
theorem attemptUnlock_frame {session : SessionId} (h : session ≠ request.sessionId) :
    let m' := (self.attemptUnlock authenticator request policy now).manager
    m'.locks.lookup session = self.locks.lookup session
      ∧ m'.timeouts.lockoutExpiry.lookup session = self.timeouts.lockoutExpiry.lookup session := by
  intro m'
  by_cases hout : (self.entry request.sessionId).state = .lockedOut
  · have hm' : m' = _ := congrArg UnlockAttempt.manager
      (self.attemptUnlock_refused authenticator request policy now hout)
    rw [hm']
    exact ⟨AList.lookup_insert_ne h, rfl⟩
  · cases ha : authenticator.accepts request with
    | true =>
        have hm' : m' = _ := congrArg UnlockAttempt.manager
          (self.attemptUnlock_accepted authenticator request policy now hout ha)
        rw [hm']
        exact ⟨AList.lookup_insert_ne h, rfl⟩
    | false =>
        have hm' : m' = _ := congrArg UnlockAttempt.manager
          (self.attemptUnlock_rejected authenticator request policy now hout ha)
        rw [hm']
        split
        · exact ⟨AList.lookup_insert_ne h, AList.lookup_insert_ne h⟩
        · exact ⟨AList.lookup_insert_ne h, rfl⟩

/-- An attempt is refused unseen exactly while the session is locked out. -/
theorem attemptUnlock_unseen_iff :
    (self.attemptUnlock authenticator request policy now).calls = [] ↔
      (self.entry request.sessionId).state = .lockedOut := by
  constructor
  · intro hcalls
    by_contra hopen
    cases ha : authenticator.accepts request with
    | true =>
        rw [attemptUnlock_accepted self authenticator request policy now hopen ha] at hcalls
        cases hcalls
    | false =>
        rw [attemptUnlock_rejected self authenticator request policy now hopen ha] at hcalls
        split at hcalls <;> cases hcalls
  · intro hout
    rw [attemptUnlock_refused self authenticator request policy now hout]

/-- A check that is answered `LockedOut` sets the flag and the timer. -/
theorem attemptUnlock_starts {secs : ℕ}
    (hcalls : (self.attemptUnlock authenticator request policy now).calls ≠ [])
    (hout : (self.attemptUnlock authenticator request policy now).outcome = .lockedOut secs) :
    let m' := (self.attemptUnlock authenticator request policy now).manager
    (m'.entry request.sessionId).state = .lockedOut
      ∧ m'.timeouts.lockoutExpiry.lookup request.sessionId = some (now + policy.lockout) := by
  have hopen : (self.entry request.sessionId).state ≠ .lockedOut := fun hlocked =>
    hcalls ((attemptUnlock_unseen_iff self authenticator request policy now).2 hlocked)
  cases ha : authenticator.accepts request with
  | true =>
      rw [attemptUnlock_accepted self authenticator request policy now hopen ha] at hout
      cases hout
  | false =>
      have heq := attemptUnlock_rejected self authenticator request policy now hopen ha
      by_cases hlimit :
        wrapU32 ((self.entry request.sessionId).attempts + 1) ≥ policy.maxAttempts
      · rw [if_pos hlimit] at heq
        rw [heq]
        simp only [entry, LockTimeouts.startLockout, AList.lookup_insert, Option.getD_some,
          and_self]
      · rw [if_neg hlimit] at heq
        rw [heq] at hout
        cases hout

/-- An attempt succeeds exactly if the session is not locked out and the credential is accepted. -/
theorem attemptUnlock_success_iff :
    (self.attemptUnlock authenticator request policy now).outcome = .success ↔
      (self.entry request.sessionId).state ≠ .lockedOut
        ∧ authenticator.accepts request = true := by
  by_cases hout : (self.entry request.sessionId).state = .lockedOut
  · rw [attemptUnlock_refused self authenticator request policy now hout]
    simp [hout]
  · cases ha : authenticator.accepts request with
    | true =>
        rw [attemptUnlock_accepted self authenticator request policy now hout ha]
        simp [hout]
    | false =>
        rw [attemptUnlock_rejected self authenticator request policy now hout ha]
        split <;> simp

/-- Only a success unlocks. -/
theorem attemptUnlock_isLocked {session : SessionId} (h : self.isLocked session = true)
    (hfail : session = request.sessionId →
      (self.attemptUnlock authenticator request policy now).outcome ≠ .success) :
    (self.attemptUnlock authenticator request policy now).manager.isLocked session = true := by
  rw [isLocked_iff] at h ⊢
  by_cases hs : session = request.sessionId
  · subst hs
    by_cases hout : (self.entry request.sessionId).state = .lockedOut
    · rw [attemptUnlock_refused self authenticator request policy now hout, entry_insert,
        if_pos rfl]
      exact h
    · have ha : authenticator.accepts request = false := by
        by_contra ha
        exact hfail rfl ((attemptUnlock_success_iff self authenticator request policy now).2
          ⟨hout, by simpa using ha⟩)
      rw [attemptUnlock_rejected self authenticator request policy now hout ha]
      split
      · simp only [entry, AList.lookup_insert, Option.getD_some]
        exact LockState.noConfusion
      · rw [entry_insert, if_pos rfl]
        exact h
  · rw [entry_eq_of_lookup (attemptUnlock_frame self authenticator request policy now hs).1]
    exact h

/-- A successful attempt unlocks its session. -/
theorem attemptUnlock_unlocks
    (h : (self.attemptUnlock authenticator request policy now).outcome = .success) :
    (self.attemptUnlock authenticator request policy now).manager.isLocked request.sessionId
      = false := by
  obtain ⟨hout, ha⟩ := (self.attemptUnlock_success_iff authenticator request policy now).1 h
  simp only [attemptUnlock_accepted self authenticator request policy now hout ha, isLocked,
    AList.lookup_insert, Option.map_some]

/-- The one way an attempt locks a session: a rejected credential at the limit. -/
theorem attemptUnlock_locks (h : self.isLocked request.sessionId = false)
    (h' : (self.attemptUnlock authenticator request policy now).manager.isLocked request.sessionId
      = true) :
    authenticator.accepts request = false
      ∧ policy.maxAttempts ≤ wrapU32 ((self.entry request.sessionId).attempts + 1) := by
  have hstate : (self.entry request.sessionId).state = .unlocked := by
    by_contra hne
    rw [isLocked_iff.2 hne] at h
    cases h
  have hout : (self.entry request.sessionId).state ≠ .lockedOut := by
    rw [hstate]
    exact LockState.noConfusion
  have ha : authenticator.accepts request = false := by
    by_contra hyes
    have hsuccess := (self.attemptUnlock_success_iff authenticator request policy now).2
      ⟨hout, by simpa using hyes⟩
    rw [attemptUnlock_unlocks self authenticator request policy now hsuccess] at h'
    cases h'
  refine ⟨ha, ?_⟩
  by_contra hlimit
  rw [attemptUnlock_rejected self authenticator request policy now hout ha, if_neg hlimit,
    isLocked_iff, entry_insert, if_pos rfl] at h'
  exact h' hstate

end Attempt

theorem releaseInhibitor_eq {self m' : LockManager} {id : ℕ}
    (h : self.releaseInhibitor id = .ok m') :
    m' = { self with inhibitors :=
      { self.inhibitors with inhibitors := self.inhibitors.inhibitors.erase id } } := by
  unfold releaseInhibitor InhibitorRegistry.remove at h
  split at h
  · rename_i r hr
    split at hr
    · cases hr
      cases h
      rfl
    · cases hr
  · cases h

/-! ## The lockout sweep -/

theorem clearLockout_entry (self : LockManager) (k session : SessionId) :
    (self.clearLockout k).entry session
      = if session = k then (self.entry session).cleared else self.entry session := by
  simp only [entry, clearLockout, Table.lookup_modify]
  by_cases hk : session = k
  · subst hk
    simp only [if_true]
    cases self.locks.lookup session with
    | none => rfl
    | some lock => rfl
  · simp only [hk, if_false]

theorem cleared_cleared (lock : SessionLock) : lock.cleared.cleared = lock.cleared := by
  unfold SessionLock.cleared
  split <;> simp_all

theorem foldl_clearLockout_entry (ks : List SessionId) (self : LockManager)
    (session : SessionId) :
    (ks.foldl clearLockout self).entry session
      = if session ∈ ks then (self.entry session).cleared else self.entry session := by
  induction ks generalizing self with
  | nil => simp
  | cons k rest ih =>
      rw [List.foldl_cons, ih, clearLockout_entry]
      by_cases hk : session = k <;> by_cases hrest : session ∈ rest <;>
        simp [hk, hrest, cleared_cleared]

private theorem foldl_clearLockout_frame (ks : List SessionId) (self : LockManager) :
    (ks.foldl clearLockout self).timeouts = self.timeouts := by
  induction ks generalizing self with
  | nil => rfl
  | cons k rest ih => exact ih (self.clearLockout k)

/-- A sweep forgets the timers that are due and keeps the others. -/
theorem sweepLockouts_lockoutExpiry {self : LockManager} {now : Instant} {session : SessionId}
    {expiry : Instant} :
    (self.sweepLockouts now).timeouts.lockoutExpiry.lookup session = some expiry ↔
      self.timeouts.lockoutExpiry.lookup session = some expiry ∧ now < expiry := by
  unfold sweepLockouts
  rw [foldl_clearLockout_frame]
  simp only [LockTimeouts.expiredLockouts, drainExpired, Table.lookup_drain,
    decide_eq_false_iff_not, Nat.not_le]

/-- A sweep ends the lockouts that are due and touches no other session. -/
theorem sweepLockouts_entry (self : LockManager) (now : Instant) (session : SessionId) :
    (self.sweepLockouts now).entry session
      = if ∃ expiry, self.timeouts.lockoutExpiry.lookup session = some expiry ∧ expiry ≤ now then
          (self.entry session).cleared
        else
          self.entry session := by
  unfold sweepLockouts
  rw [foldl_clearLockout_entry]
  simp only [LockTimeouts.expiredLockouts, drainExpired, Table.mem_drain, decide_eq_true_eq]
  rfl

/-- Ending a lockout leaves the session locked. -/
theorem sweepLockouts_isLocked (self : LockManager) (now : Instant) (session : SessionId) :
    (self.sweepLockouts now).isLocked session = self.isLocked session := by
  rw [Bool.eq_iff_iff, isLocked_iff, isLocked_iff, sweepLockouts_entry]
  unfold SessionLock.cleared
  split
  · split <;> simp_all
  · rfl

theorem Rehash.entry_eq {m m' : LockManager} (h : Rehash m m') (session : SessionId) :
    m'.entry session = m.entry session := by
  simp only [entry, h.locks.lookup_eq]

theorem Rehash.isLocked_eq {m m' : LockManager} (h : Rehash m m') (session : SessionId) :
    m'.isLocked session = m.isLocked session := by
  simp only [isLocked, h.locks.lookup_eq]

end LockManager

end MitosSession
