import MitosSession.Library.Run
import MitosSession.Lock

set_option autoImplicit false

/-! # Every call of the lock manager

Runs of the lock manager's whole interface: each method of `LockManager`, each with the policy its
caller passes, and the timers, which are public. The daemon uses a part of it (`LockOp`).

Two of the calls besides `lock` write the state of a session. `clear_lockout` only ever takes
`LockedOut` back to `Locked`, but `attempt_unlock` is not told whether the session is locked at
all: the last allowed failure moves it to `LockedOut` from wherever it was. So a session is locked
by nothing but `lock` exactly as long as no such failure meets a session that is not locked
(`locked_only_by_lock_iff`). -/

namespace MitosSession

/-- A call of `LockManager::timeouts`. -/
inductive TimerCall where
  | startGrace (session : SessionId) (now : Instant) (grace : Duration)
  | cancelGrace (session : SessionId)
  | expiredGrace (now : Instant)
  | startLockout (session : SessionId) (now : Instant) (lockout : Duration)
  | expiredLockouts (now : Instant)

/-- The timers after a call. -/
def LockTimeouts.call (self : LockTimeouts) : TimerCall → LockTimeouts
  | .startGrace session now grace => self.startGrace session now grace
  | .cancelGrace session => self.cancelGrace session
  | .expiredGrace now => (self.expiredGrace now).2
  | .startLockout session now lockout => self.startLockout session now lockout
  | .expiredLockouts now => (self.expiredLockouts now).2

/-- A call of the lock manager. -/
inductive LockCall where
  | lock (session : SessionId) (policy : LockPolicy)
  | unlock (session : SessionId)
  | attemptUnlock (authenticator : Authenticator) (request : AuthRequest) (policy : AuthPolicy)
      (now : Instant)
  | clearLockout (session : SessionId)
  | addInhibitor (what : InhibitWhat) (who why : String) (mode : InhibitMode)
  | releaseInhibitor (id : ℕ)
  | timers (call : TimerCall)

/-- The session whose entry the call may write. -/
def LockCall.session : LockCall → Option SessionId
  | .lock session _ => some session
  | .unlock session => some session
  | .attemptUnlock _ request _ _ => some request.sessionId
  | .clearLockout session => some session
  | _ => none

namespace LockManager

/-- The manager after a call; a failed one leaves it untouched. -/
def call (self : LockManager) : LockCall → LockManager
  | .lock session policy =>
    match self.lock session policy with
    | .ok self' => self'
    | .error _ => self
  | .unlock session => self.unlock session
  | .attemptUnlock authenticator request policy now =>
    (self.attemptUnlock authenticator request policy now).manager
  | .clearLockout session => self.clearLockout session
  | .addInhibitor what who why mode => (self.addInhibitor what who why mode).1
  | .releaseInhibitor id =>
    match self.releaseInhibitor id with
    | .ok self' => self'
    | .error _ => self
  | .timers call => { self with timeouts := self.timeouts.call call }

/-- One step of a run: a call, or (`none`) a change of iteration order. -/
inductive Calls : LockManager → Option LockCall → LockManager → Prop
  | call (m : LockManager) (c : LockCall) : Calls m (some c) (m.call c)
  | rehash {m m' : LockManager} : Rehash m m' → Calls m none m'

section

variable {m m' : LockManager} {s : SessionId}

/-! ## What a call does to an entry -/

theorem unlock_entry (m : LockManager) (k s : SessionId) :
    (m.unlock k).entry s = if s = k then {} else m.entry s := by
  simp only [entry, unlock, Table.lookup_modify]
  by_cases hk : s = k
  · subst hk
    simp only [if_true]
    cases m.locks.lookup s with
    | none => rfl
    | some lock => rfl
  · simp only [hk, if_false]

/-- A call writes the entry of one session at most. -/
theorem call_entry_of_ne {c : LockCall} (h : c.session ≠ some s) :
    (m.call c).entry s = m.entry s := by
  cases c with
  | lock k policy =>
      have hne : s ≠ k := fun heq => h (congrArg some heq.symm)
      simp only [call]
      split
      · rename_i m' hlock
        rw [lock_entry hlock, if_neg hne]
      · rfl
  | unlock k =>
      have hne : s ≠ k := fun heq => h (congrArg some heq.symm)
      simp only [call, unlock_entry, if_neg hne]
  | attemptUnlock authenticator request policy now =>
      have hne : s ≠ request.sessionId := fun heq => h (congrArg some heq.symm)
      exact entry_eq_of_lookup (attemptUnlock_frame m authenticator request policy now hne).1
  | clearLockout k =>
      have hne : s ≠ k := fun heq => h (congrArg some heq.symm)
      simp only [call, clearLockout_entry, if_neg hne]
  | addInhibitor what who why mode => rfl
  | releaseInhibitor id =>
      simp only [call]
      split
      · rename_i m' hrelease
        rw [releaseInhibitor_eq hrelease]
        rfl
      · rfl
  | timers call => rfl

theorem isLocked_eq_of_entry (h : m'.entry s = m.entry s) : m'.isLocked s = m.isLocked s := by
  rw [Bool.eq_iff_iff, isLocked_iff, isLocked_iff, h]

theorem clearLockout_isLocked (m : LockManager) (k s : SessionId) :
    (m.clearLockout k).isLocked s = m.isLocked s := by
  rw [Bool.eq_iff_iff, isLocked_iff, isLocked_iff, clearLockout_entry]
  unfold SessionLock.cleared
  split
  · split <;> simp_all
  · rfl

theorem unlock_isLocked (m : LockManager) (s : SessionId) : (m.unlock s).isLocked s = false := by
  rw [Bool.eq_false_iff, Ne, isLocked_iff, unlock_entry, if_pos rfl]
  exact fun hne => hne rfl

/-! ## What locks a session -/

/-- The call is the last allowed failure of an unlock attempt, and meets a session that is not
    locked. -/
def FailsOpen (m : LockManager) (c : LockCall) : Prop :=
  ∃ authenticator request policy now, c = .attemptUnlock authenticator request policy now
    ∧ m.isLocked request.sessionId = false
    ∧ authenticator.accepts request = false
    ∧ policy.maxAttempts ≤ wrapU32 ((m.entry request.sessionId).attempts + 1)

/-- A call that locks a session is a `lock` of it that returned `Ok`, or such a failure. -/
theorem call_locks {c : LockCall} (h : m.isLocked s = false) (h' : (m.call c).isLocked s = true) :
    (∃ policy m', c = .lock s policy ∧ m.lock s policy = .ok m') ∨ FailsOpen m c := by
  have hs : c.session = some s := by
    by_contra hne
    -- the call is about `s`, since it leaves the other entries alone
    rw [isLocked_eq_of_entry (call_entry_of_ne hne), h] at h'
    cases h'
  cases c with
  | lock k policy =>
      obtain rfl := Option.some.inj hs
      left
      simp only [call] at h'
      split at h'
      · rename_i m' hlock
        exact ⟨policy, m', rfl, hlock⟩
      · rw [h] at h'
        cases h'
  | unlock k =>
      obtain rfl := Option.some.inj hs
      rw [call, unlock_isLocked] at h'
      cases h'
  | attemptUnlock authenticator request policy now =>
      obtain rfl := Option.some.inj hs
      obtain ⟨hrejects, hlimit⟩ := attemptUnlock_locks m authenticator request policy now h h'
      exact Or.inr ⟨authenticator, request, policy, now, rfl, h, hrejects, hlimit⟩
  | clearLockout k =>
      -- `LockedOut` and `Locked` are both locked, so the end of a lockout makes no difference
      rw [call, clearLockout_isLocked, h] at h'
      cases h'
  | addInhibitor what who why mode => cases hs
  | releaseInhibitor id => cases hs
  | timers call => cases hs

/-- The failure does lock the session it names, and no `lock` was called. -/
theorem FailsOpen.locks {c : LockCall} (h : FailsOpen m c) :
    ∃ s, m.isLocked s = false ∧ (m.call c).isLocked s = true ∧ ∀ k policy, c ≠ .lock k policy := by
  obtain ⟨authenticator, request, policy, now, rfl, hopen, hrejects, hlimit⟩ := h
  have hstate : (m.entry request.sessionId).state ≠ .lockedOut := by
    intro hout
    -- a session that is not locked is not locked out either, so the credential is checked
    have hlocked : m.isLocked request.sessionId = true := by
      rw [isLocked_iff, hout]
      exact LockState.noConfusion
    rw [hlocked] at hopen
    cases hopen
  refine ⟨request.sessionId, hopen, ?_, fun _ _ => LockCall.noConfusion⟩
  rw [isLocked_iff, call, attemptUnlock_rejected m authenticator request policy now hstate hrejects,
    if_pos hlimit]
  simp only [entry, AList.lookup_insert, Option.getD_some]
  exact LockState.noConfusion

end

/-! ## Whole runs -/

/-- The step locks a session only if it is a `lock` of that session which returned `Ok`. -/
def LocksByLock (x : Transition LockManager (Option LockCall)) : Prop :=
  ∀ s, x.pre.isLocked s = false → x.post.isLocked s = true →
    ∃ policy m', x.label = some (.lock s policy) ∧ x.pre.lock s policy = .ok m'

/-- What `LocksByLock` says about the moment of the call. -/
theorem LocksByLock.enabled {x : Transition LockManager (Option LockCall)} (h : LocksByLock x)
    {s : SessionId} (hpre : x.pre.isLocked s = false) (hpost : x.post.isLocked s = true) :
    ∃ policy, x.label = some (.lock s policy) ∧ policy.enabled = true
      ∧ x.pre.inhibitors.blocks .lock = false := by
  obtain ⟨policy, m', hlabel, hlock⟩ := h s hpre hpost
  exact ⟨policy, hlabel, (lock_eq_ok_iff.1 hlock).1⟩

theorem calls_locksByLock_iff {m m' : LockManager} {c : Option LockCall} (h : Calls m c m') :
    LocksByLock ⟨m, c, m'⟩ ↔ ∀ call ∈ c, ¬ FailsOpen m call := by
  cases h with
  | rehash hm =>
      refine ⟨by simp, fun _ s hpre hpost => ?_⟩
      rw [hm.isLocked_eq, hpre] at hpost
      cases hpost
  | call c =>
      constructor
      · rintro hlocks call hcall hfails
        obtain rfl := Option.some.inj hcall
        obtain ⟨s, hpre, hpost, hnot⟩ := hfails.locks
        obtain ⟨policy, _, hlabel, _⟩ := hlocks s hpre hpost
        exact hnot s policy (Option.some.inj hlabel)
      · intro hnone s hpre hpost
        rcases call_locks hpre hpost with ⟨policy, m', rfl, hlock⟩ | hfails
        · exact ⟨policy, m', rfl, hlock⟩
        · exact absurd hfails (hnone c rfl)

/-- **Failing to unlock locks, exactly when the last allowed failure meets an open session.** In
    every run of calls, every session that becomes locked becomes so in a call of `lock` that
    returned `Ok`, if and only if no call of the run is a rejected `attempt_unlock` at the limit
    for a session that is not locked. -/
theorem locked_only_by_lock_iff {m₀ m : LockManager}
    {tr : List (Transition LockManager (Option LockCall))} (hrun : Run Calls m₀ tr m) :
    (∀ x ∈ tr, LocksByLock x) ↔ ∀ x ∈ tr, ∀ c ∈ x.label, ¬ FailsOpen x.pre c := by
  constructor
  · intro h x hx
    exact (calls_locksByLock_iff (hrun.of_mem hx).2).1 (h x hx)
  · intro h x hx
    exact (calls_locksByLock_iff (hrun.of_mem hx).2).2 (h x hx)

section Example

/-- Three attempts, then thirty seconds. -/
private def threeAttempts : AuthPolicy :=
  AuthPolicy.new default default

private def wrongGuess : LockCall :=
  .attemptUnlock
    ((PamAuthenticator.new threeAttempts).authenticate (PamStack.knowing [("alice", "hunter2")]))
    { sessionId := 1, userName := "alice", password := "1234" } threeAttempts 0

private def calls (cs : List LockCall) : LockManager :=
  cs.foldl call {}

/-- One wrong guess at a session that is not locked, and then a `lock`: that `lock` is what locks
    it. -/
theorem locked_only_by_lock_after_guess :
    LocksByLock ⟨calls [wrongGuess], some (.lock 1 (LockPolicy.from default)),
      calls [wrongGuess, .lock 1 (LockPolicy.from default)]⟩ := by
  have hrun : Run Calls {} _ (calls [wrongGuess, .lock 1 (LockPolicy.from default)]) :=
    (Run.single (Calls.call {} wrongGuess)).snoc
      (Calls.call _ (.lock 1 (LockPolicy.from default)))
  refine (locked_only_by_lock_iff hrun).2 ?_ _
    (List.mem_append_right _ (List.mem_singleton_self _))
  simp only [List.singleton_append, List.mem_cons, List.not_mem_nil, or_false, forall_eq_or_imp,
    forall_eq, Option.mem_def, Option.some.injEq]
  constructor
  · rintro c rfl ⟨authenticator, request, policy, now, heq, -, -, hlimit⟩
    cases heq
    exact absurd hlimit (by decide)
  · rintro c rfl ⟨authenticator, request, policy, now, heq, -⟩
    cases heq

/-- Nobody ever calls `lock`: three wrong guesses at a session that is not locked lock it, and once
    the lockout is over and processed it still is. -/
theorem three_guesses_lock :
    (calls [wrongGuess, wrongGuess]).isLocked 1 = false
      ∧ (calls [wrongGuess, wrongGuess, wrongGuess]).isLocked 1 = true
      ∧ (calls [wrongGuess, wrongGuess, wrongGuess,
          .timers (.expiredLockouts (Duration.fromSecs 60)), .clearLockout 1]).isLocked 1 = true
      ∧ ¬ ∀ tr m, Run Calls {} tr m → ∀ x ∈ tr, LocksByLock x := by
  refine ⟨by decide, by decide, by decide, fun h => ?_⟩
  have hrun : Run Calls {} _ (calls [wrongGuess, wrongGuess, wrongGuess]) :=
    ((Run.single (Calls.call {} wrongGuess)).snoc (Calls.call _ wrongGuess)).snoc
      (Calls.call _ wrongGuess)
  have hlocks := h _ _ hrun _ (List.mem_append_right _ (List.mem_singleton_self _))
  obtain ⟨policy, m', hlabel, -⟩ := hlocks 1 (by decide) (by decide)
  cases hlabel

end Example

end LockManager

end MitosSession
