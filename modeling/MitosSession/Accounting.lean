import MitosSession.Lock.Calls
import MitosSession.Elevation.Lockout

set_option autoImplicit false

/-! # What the attempt counters count

Both password flows keep an attempt counter per session and hand it to `check`. Here the counters
are read as what they are for: the number of failed attempts since the last reset, counted over the
whole history of calls (`failures`). For the lock screen a success, an `unlock` and a
`clear_lockout` that ends a lockout are resets; for elevation a success on any prompt of the session
and the expiry of its lockout are. Nothing else moves a counter.

A counter is a `u32`. It agrees with the count as long as that stays below `2 ^ 32`. -/

namespace MitosSession

theorem wrapU32_wrapU32_succ (n : ℕ) : wrapU32 (wrapU32 n + 1) = wrapU32 (n + 1) :=
  Nat.mod_add_mod n u32Size 1

/-! ## The lock screen -/

namespace LockManager

/-- The step is an unlock attempt for `s` that reached the authenticator and failed. -/
def fails (s : SessionId) (x : Transition LockManager (Option LockCall)) : Bool :=
  match x.label with
  | some (.attemptUnlock authenticator request _ _) =>
    request.sessionId = s && (x.pre.entry s).state ≠ .lockedOut && !authenticator.accepts request
  | _ => false

/-- The step is a success or an `unlock` for `s`, or a `clear_lockout` of it while it is locked
    out. -/
def resets (s : SessionId) (x : Transition LockManager (Option LockCall)) : Bool :=
  match x.label with
  | some (.attemptUnlock authenticator request _ _) =>
    request.sessionId = s && (x.pre.entry s).state ≠ .lockedOut && authenticator.accepts request
  | some (.unlock k) => k = s
  | some (.clearLockout k) => k = s && (x.pre.entry s).state = .lockedOut
  | _ => false

/-- The failed attempts for `s` since the last reset. -/
def failures (s : SessionId) (tr : List (Transition LockManager (Option LockCall))) : ℕ :=
  countSince (resets s) (fails s) tr

section

variable {m m' : LockManager} {s : SessionId}

/-- What one step does to a counter. -/
theorem calls_attempts {c : Option LockCall} (h : Calls m c m') (s : SessionId) :
    (m'.entry s).attempts
      = if resets s ⟨m, c, m'⟩ then 0
        else if fails s ⟨m, c, m'⟩ then wrapU32 ((m.entry s).attempts + 1)
        else (m.entry s).attempts := by
  cases h with
  | rehash hm =>
      rw [hm.entry_eq]
      rfl
  | call c =>
      by_cases hs : c.session = some s
      · cases c with
        | lock k policy =>
            obtain rfl := Option.some.inj hs
            simp only [call, resets, fails, Bool.false_eq_true, if_false]
            split
            · rename_i m' hlock
              rw [lock_entry hlock, if_pos rfl]
            · rfl
        | unlock k =>
            obtain rfl := Option.some.inj hs
            simp [call, resets, unlock_entry]
        | attemptUnlock authenticator request policy now =>
            obtain rfl := Option.some.inj hs
            simp only [call, resets, fails]
            by_cases hout : (m.entry request.sessionId).state = .lockedOut
            -- an attempt refused without a check does not count
            · rw [attemptUnlock_refused m authenticator request policy now hout, entry_insert]
              simp [hout]
            · have hchecked : decide ((m.entry request.sessionId).state ≠ .lockedOut) = true :=
                decide_eq_true hout
              cases ha : authenticator.accepts request with
              | true =>
                  rw [attemptUnlock_accepted m authenticator request policy now hout ha,
                    entry_insert, hchecked]
                  simp
              | false =>
                  rw [attemptUnlock_rejected m authenticator request policy now hout ha, hchecked]
                  -- locked out or not, the counter moves by one
                  split <;> simp [entry]
        | clearLockout k =>
            obtain rfl := Option.some.inj hs
            simp only [call, resets, fails, clearLockout_entry, if_true, SessionLock.cleared]
            by_cases hout : (m.entry k).state = .lockedOut
            · simp [hout]
            · simp [hout]
        | addInhibitor what who why mode => cases hs
        | releaseInhibitor id => cases hs
        | timers call => cases hs
      · -- a call for another session neither resets nor counts
        rw [call_entry_of_ne hs]
        cases c <;> simp_all [resets, fails, LockCall.session]

theorem attempts_eq_failures {tr : List (Transition LockManager (Option LockCall))}
    (hrun : Run Calls {} tr m) (s : SessionId) :
    (m.entry s).attempts = wrapU32 (failures s tr) :=
  hrun.counter (v := fun m => (m.entry s).attempts) (g := fun n => wrapU32 (n + 1)) rfl
    wrapU32_wrapU32_succ fun _ _ _ _ _ hstep => calls_attempts hstep s

end

/-- The accounts of the lock manager after the calls `tr`. -/
structure Accounts (tr : List (Transition LockManager (Option LockCall))) (m : LockManager) :
    Prop where
  /-- A failing attempt on a session that is not locked out, the `n`-th since the last reset. -/
  law : ∀ authenticator request policy now n, (m.entry request.sessionId).state ≠ .lockedOut →
    authenticator.accepts request = false → n = failures request.sessionId tr + 1 → n < u32Size →
    (n < policy.maxAttempts → ∃ left, left + n = policy.maxAttempts
        ∧ (m.attemptUnlock authenticator request policy now).outcome = .failure left)
      ∧ (policy.maxAttempts ≤ n →
        (m.attemptUnlock authenticator request policy now).outcome
          = .lockedOut policy.lockout.asSecs)
  /-- Locking, inhibitors, timers and calls for other sessions do not count. -/
  frame : ∀ c m' s, Calls m (some c) m' →
    (c.session ≠ some s ∨ ∃ policy, c = .lock s policy) →
    failures s (tr ++ [⟨m, some c, m'⟩]) = failures s tr
      ∧ (m'.entry s).attempts = (m.entry s).attempts

theorem accounts {tr : List (Transition LockManager (Option LockCall))} {m : LockManager}
    (hrun : Run Calls {} tr m) : Accounts tr m where
  law := by
    intro authenticator request policy now n hout ha hn hlt
    have hcount : wrapU32 ((m.entry request.sessionId).attempts + 1) = n := by
      rw [attempts_eq_failures hrun, wrapU32_wrapU32_succ, ← hn, wrapU32_of_lt hlt]
    rw [attemptUnlock_rejected m authenticator request policy now hout ha, hcount]
    constructor
    · intro hbelow
      -- no underflow: the subtraction is made below the limit only
      rw [if_neg (Nat.not_le.2 hbelow)]
      exact ⟨policy.maxAttempts - n, Nat.sub_add_cancel hbelow.le, rfl⟩
    · intro hlimit
      rw [if_pos hlimit]
  frame := by
    intro c m' s hstep hother
    have hquiet : resets s ⟨m, some c, m'⟩ = false ∧ fails s ⟨m, some c, m'⟩ = false := by
      rcases hother with hne | ⟨policy, rfl⟩
      · cases c <;> simp_all [resets, fails, LockCall.session]
      · exact ⟨rfl, rfl⟩
    have hcount := calls_attempts hstep s
    rw [hquiet.1, hquiet.2] at hcount
    refine ⟨?_, hcount⟩
    unfold failures
    rw [countSince_concat, hquiet.1, hquiet.2]
    rfl

end LockManager

/-! ## Elevation -/

namespace ElevationManager

/-- The step is an answer to a prompt of `s` that the authenticator rejects. -/
def fails (s : SessionId) (x : Transition ElevationManager (Option ElevationOp)) : Bool :=
  match x.label with
  | some (.attempt id authenticator request _) =>
    (x.pre.pending.lookup id).any (fun p => p.sessionId = s) && !authenticator.accepts request
  | _ => false

/-- The session's lockout is due at `now`. -/
def lockoutDue (m : ElevationManager) (s : SessionId) (now : Instant) : Bool :=
  (m.timeouts.lockoutExpiry.lookup s).any fun expiry => expiry ≤ now

/-- The step is an answer to a prompt of `s` that the authenticator accepts, or the sweep at which
    the lockout of `s` expires. -/
def resets (s : SessionId) (x : Transition ElevationManager (Option ElevationOp)) : Bool :=
  match x.label with
  | some (.attempt id authenticator request _) =>
    (x.pre.pending.lookup id).any (fun p => p.sessionId = s) && authenticator.accepts request
  | some (.clearExpiredLockouts now) => x.pre.lockoutDue s now
  | _ => false

/-- The failed answers to prompts of `s` since the last reset. -/
def failures (s : SessionId) (tr : List (Transition ElevationManager (Option ElevationOp))) : ℕ :=
  countSince (resets s) (fails s) tr

section

variable {policy : AuthPolicy} {m m' : ElevationManager} {s : SessionId}

theorem auth_eq_of_sessionAuth (h : m'.sessionAuth = m.sessionAuth) (s : SessionId) :
    m'.auth s = m.auth s := by
  simp only [auth, h]

theorem clearExpiredLockouts_attempts (now : Instant) :
    ((m.clearExpiredLockouts now).auth s).attempts
      = if m.lockoutDue s now then 0 else (m.auth s).attempts := by
  rw [clearExpiredLockouts_record]
  have hdue : (∃ expiry, m.timeouts.lockoutExpiry.lookup s = some expiry ∧ expiry ≤ now) ↔
      m.lockoutDue s now = true := by
    unfold lockoutDue
    cases m.timeouts.lockoutExpiry.lookup s with
    | none => simp
    | some expiry => simp
  by_cases h : m.lockoutDue s now = true
  · rw [if_pos (hdue.2 h), if_pos h]
  · rw [if_neg fun hex => h (hdue.1 hex), if_neg h]

/-- Only an answer to a prompt that is not open is none. -/
theorem attempt_eq_none {id : ElevationRequestId} {authenticator : Authenticator}
    {request : AuthRequest} {now : Instant}
    (h : m.attempt id authenticator request policy now = none) : m.pending.lookup id = none := by
  cases hp : m.pending.lookup id with
  | none => rfl
  | some p =>
      cases ha : authenticator.accepts request with
      | true =>
          rw [attempt_accepted policy now hp ha] at h
          cases h
      | false =>
          rw [attempt_rejected policy now hp ha] at h
          split at h <;> cases h

/-- What an answer does to the counters: only its own session's moves. -/
theorem attempt_attempts {id : ElevationRequestId} {p : PendingElevation}
    {authenticator : Authenticator} {request : AuthRequest} {now : Instant}
    {out : ElevationAttempt} (hp : m.pending.lookup id = some p)
    (hout : m.attempt id authenticator request policy now = some out) (s : SessionId) :
    (out.manager.auth s).attempts
      = if s = p.sessionId then
          if authenticator.accepts request then 0
          else wrapU32 ((m.auth p.sessionId).attempts + 1)
        else (m.auth s).attempts := by
  cases ha : authenticator.accepts request with
  | true =>
      rw [attempt_accepted policy now hp ha] at hout
      obtain rfl := Option.some.inj hout
      simp only [close, auth, Table.lookup_insert_eq]
      split <;> rfl
  | false =>
      rw [attempt_rejected policy now hp ha] at hout
      split at hout <;>
      · obtain rfl := Option.some.inj hout
        simp only [close, auth, Table.lookup_insert_eq]
        split <;> rfl

/-- What one step does to a counter. -/
theorem step_attempts {op : Option ElevationOp} (h : Step policy m op m') (s : SessionId) :
    (m'.auth s).attempts
      = if resets s ⟨m, op, m'⟩ then 0
        else if fails s ⟨m, op, m'⟩ then wrapU32 ((m.auth s).attempts + 1)
        else (m.auth s).attempts := by
  cases h with
  | rehash hm =>
      rw [hm.auth_eq]
      rfl
  | perform op =>
      cases op with
      | begin sessionId compositorConn requesterConn limits now =>
          simp only [perform, resets, fails, Bool.false_eq_true, if_false]
          split
          · rename_i begun hbegin
            obtain ⟨-, -, heq⟩ := begin_eq_ok_iff.1 hbegin
            rw [heq]
            rfl
          · rfl
      | attempt id authenticator request now =>
          simp only [perform, resets, fails]
          cases hout : m.attempt id authenticator request policy now with
          -- an answer to no open prompt is not checked
          | none => simp [attempt_eq_none hout]
          | some out =>
              obtain ⟨p, hp⟩ := attempt_eq_some policy now hout
              simp only [attempt_attempts hp hout s, hp, Option.any_some]
              by_cases hs : s = p.sessionId
              · subst hs
                cases authenticator.accepts request <;> simp
              · have hs' : p.sessionId ≠ s := fun heq => hs heq.symm
                simp [hs, hs']
      | cancel id =>
          simp only [perform, cancel, resets, fails, Bool.false_eq_true, if_false]
          cases m.pending.lookup id with
          | none => rfl
          | some p => rfl
      | expirePending now =>
          exact congrArg SessionElevationAuth.attempts
            (auth_eq_of_sessionAuth (expirePending_spec m now).2.sessionAuth s)
      | abandonSession k =>
          exact congrArg SessionElevationAuth.attempts
            (auth_eq_of_sessionAuth (takeAll_spec _ _).2.2.sessionAuth s)
      | abandonConnection c =>
          exact congrArg SessionElevationAuth.attempts
            (auth_eq_of_sessionAuth (takeAll_spec _ _).2.2.sessionAuth s)
      | clearExpiredLockouts now => exact clearExpiredLockouts_attempts now

theorem attempts_eq_failures {tr : List (Transition ElevationManager (Option ElevationOp))}
    (hrun : Run (Step policy) {} tr m) (s : SessionId) :
    (m.auth s).attempts = wrapU32 (failures s tr) :=
  hrun.counter (v := fun m => (m.auth s).attempts) (g := fun n => wrapU32 (n + 1)) rfl
    wrapU32_wrapU32_succ fun _ _ _ _ _ hstep => step_attempts hstep s

/-- The operation answers a prompt of `s`, or is the sweep at which its lockout expires. -/
def Concerns (s : SessionId) (m : ElevationManager) : ElevationOp → Prop
  | .attempt id _ _ _ => ∃ p, m.pending.lookup id = some p ∧ p.sessionId = s
  | .clearExpiredLockouts now => m.lockoutDue s now = true
  | _ => False

theorem quiet_of_not_concerns {op : ElevationOp} (h : ¬ Concerns s m op)
    (m' : ElevationManager) :
    resets s ⟨m, some op, m'⟩ = false ∧ fails s ⟨m, some op, m'⟩ = false := by
  cases op with
  | attempt id authenticator request now =>
      simp only [resets, fails]
      cases hp : m.pending.lookup id with
      | none => simp
      | some p =>
          have hs : p.sessionId ≠ s := fun heq => h ⟨p, hp, heq⟩
          simp [hs]
  | clearExpiredLockouts now => exact ⟨Bool.eq_false_iff.2 h, rfl⟩
  | begin => exact ⟨rfl, rfl⟩
  | cancel => exact ⟨rfl, rfl⟩
  | expirePending => exact ⟨rfl, rfl⟩
  | abandonSession => exact ⟨rfl, rfl⟩
  | abandonConnection => exact ⟨rfl, rfl⟩

end

/-- The accounts of the elevation manager after the operations `tr`. -/
structure Accounts (policy : AuthPolicy)
    (tr : List (Transition ElevationManager (Option ElevationOp))) (m : ElevationManager) :
    Prop where
  /-- A failing answer to a prompt, the `n`-th for its session since the last reset. -/
  law : ∀ id p authenticator request now n, m.pending.lookup id = some p →
    authenticator.accepts request = false → n = failures p.sessionId tr + 1 → n < u32Size →
    ∃ out, m.attempt id authenticator request policy now = some out
      ∧ (n < policy.maxAttempts → (∃ left, left + n = policy.maxAttempts
          ∧ out.resolved.outcome = .failure left)
        ∧ out.manager.pending.lookup id = some p)
      ∧ (policy.maxAttempts ≤ n → out.resolved.outcome = .lockedOut policy.lockout.asSecs
        ∧ out.manager.pending.lookup id = none)
  /-- Opening and closing prompts and whatever is done for other sessions do not count. -/
  frame : ∀ op m' s, Step policy m (some op) m' → ¬ Concerns s m op →
    failures s (tr ++ [⟨m, some op, m'⟩]) = failures s tr
      ∧ (m'.auth s).attempts = (m.auth s).attempts

theorem accounts {policy : AuthPolicy}
    {tr : List (Transition ElevationManager (Option ElevationOp))} {m : ElevationManager}
    (hrun : Run (Step policy) {} tr m) : Accounts policy tr m where
  law := by
    intro id p authenticator request now n hp ha hn hlt
    have hcount : wrapU32 ((m.auth p.sessionId).attempts + 1) = n := by
      rw [attempts_eq_failures hrun, wrapU32_wrapU32_succ, ← hn, wrapU32_of_lt hlt]
    rw [attempt_rejected policy now hp ha, hcount]
    by_cases hlimit : n ≥ policy.maxAttempts
    · rw [if_pos hlimit]
      refine ⟨_, rfl, fun hbelow => absurd hlimit (Nat.not_le.2 hbelow), fun _ => ⟨rfl, ?_⟩⟩
      rw [close_pending, if_pos rfl]
    · have hbelow : n < policy.maxAttempts := Nat.lt_of_not_le hlimit
      rw [if_neg hlimit]
      refine ⟨_, rfl, fun _ => ⟨⟨_, Nat.sub_add_cancel hbelow.le, rfl⟩, hp⟩, fun h => ?_⟩
      exact absurd h hlimit
  frame := by
    intro op m' s hstep hother
    obtain ⟨hresets, hfails⟩ := quiet_of_not_concerns hother m'
    have hcount := step_attempts hstep s
    rw [hresets, hfails] at hcount
    refine ⟨?_, hcount⟩
    unfold failures
    rw [countSince_concat, hresets, hfails]
    rfl

end ElevationManager

/-! ## Both flows -/

/-- **Failures are accounted for exactly.** Under one `AuthPolicy` with `max_attempts = m`, after
    every run of elevation operations: a failing answer to any prompt, the `n`-th failure over all
    prompts of its session since the last success or lockout expiry, is answered
    `Failure{m - n}` and leaves the prompt open if `n < m`, and is answered `LockedOut` and closes
    it if `n ≥ m`. After every run of lock manager calls a failing `attempt_unlock` on a session
    that is not locked out obeys the same law. Nothing done for other sessions, and nothing but
    attempts and resets, changes `n`. -/
theorem failures_accounted {policy : AuthPolicy}
    {ops : List (Transition ElevationManager (Option ElevationOp))} {elevation : ElevationManager}
    {calls : List (Transition LockManager (Option LockCall))} {locks : LockManager}
    (helevation : Run (ElevationManager.Step policy) {} ops elevation)
    (hlocks : Run LockManager.Calls {} calls locks) :
    ElevationManager.Accounts policy ops elevation ∧ LockManager.Accounts calls locks :=
  ⟨ElevationManager.accounts helevation, LockManager.accounts hlocks⟩

section Example

private def strict : AuthPolicy :=
  { AuthPolicy.new default default with maxAttempts := 2 }

private def rejecting : Authenticator :=
  fun _ => .error (.authFailed "no")

private def wrong : AuthRequest :=
  { sessionId := 1, userName := "alice", password := "1234" }

/-- Two prompts for session 1, and a wrong answer to the first. -/
private def oneWrongAnswer : ElevationManager :=
  [.begin 1 10 20 (ElevationPolicy.from default) 0, .begin 1 10 20 (ElevationPolicy.from default) 0,
    .attempt 1 rejecting wrong 0].foldl (ElevationManager.perform strict) {}

/-- Two attempts are allowed. The first wrong answer went to prompt 1; a wrong answer to prompt 2 is
    the second failure of the session, locks it out and closes prompt 2. A limit of zero locks out
    at the first wrong password. -/
theorem failures_accounted_two_prompts :
    (∃ out, oneWrongAnswer.attempt 2 rejecting wrong strict 1 = some out
        ∧ out.resolved.outcome = .lockedOut 30 ∧ out.manager.pending.lookup 2 = none)
      ∧ (({} : LockManager).attemptUnlock rejecting wrong
          { strict with maxAttempts := 0 } 0).outcome = .lockedOut 30 := by
  have hrun : Run (ElevationManager.Step strict) {} _ oneWrongAnswer :=
    ((Run.single (ElevationManager.Step.perform {}
      (.begin 1 10 20 (ElevationPolicy.from default) 0))).snoc
      (ElevationManager.Step.perform _ (.begin 1 10 20 (ElevationPolicy.from default) 0))).snoc
      (ElevationManager.Step.perform _ (.attempt 1 rejecting wrong 0))
  obtain ⟨helevation, hlocks⟩ := failures_accounted hrun Run.nil
  obtain ⟨out, hout, -, hlimit⟩ := helevation.law 2 ⟨1, 10, 20⟩ rejecting wrong 1 2 (by decide)
    rfl (by decide) (by decide)
  refine ⟨⟨out, hout, hlimit (by decide)⟩, ?_⟩
  exact (hlocks.law rejecting wrong { strict with maxAttempts := 0 } 0 1 (by decide) rfl rfl
    (by decide)).2 (by decide)

end Example

end MitosSession
