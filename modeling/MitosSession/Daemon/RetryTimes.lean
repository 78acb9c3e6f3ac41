import MitosSession.Daemon.Lockouts

set_option autoImplicit false

/-! # The retry time a refusal tells

During a lockout both password flows refuse with a number of seconds: `retry_after_secs` on the lock
screen, the "s remaining" of `SessionError::LockedOut` at an elevation prompt. The number is the
lockout of the policy in force at the refusal. The lockout ends when its timer says, which was set
from the policy in force when it began. So the number is the time that is left exactly when the
configuration has followed the clock: unless a reload shortens the lockout second by second, only
in the first second. -/

namespace MitosSession

/-- A duration in whole seconds, rounded up. -/
def Duration.ceilSecs (d : Duration) : ℕ :=
  (d + 999999999) / 1000000000

/-- The time that is left, in whole seconds, of a lockout of `len` seconds. -/
theorem ceilSecs_remaining (since now : Instant) (len : ℕ) :
    Duration.ceilSecs (since + Duration.fromSecs len - now)
      = if since ≤ now then len - Duration.asSecs (now - since)
        else len + Duration.ceilSecs (since - now) := by
  have hnat : ∀ a b n : ℕ, (a + n * 1000000000 - b + 999999999) / 1000000000
      = if a ≤ b then n - (b - a) / 1000000000 else n + (a - b + 999999999) / 1000000000 := by
    intro a b n
    split <;> omega
  exact hnat since now len

theorem asSecs_fromSecs (secs : ℕ) : Duration.asSecs (Duration.fromSecs secs) = secs := by
  unfold Duration.asSecs Duration.fromSecs
  omega

namespace Daemon

/-! ## Lockouts with their beginning and their length -/

/-- A step that starts a lockout, by `P` with the instant at which it ends: from `v.1` on, for the
    `v.2` seconds that `secs` finds configured. -/
def LockoutFor (P : Instant → Transition Daemon DaemonLabel → Prop) (secs : Settings → ℕ)
    (v : Instant × ℕ) (x : Transition Daemon DaemonLabel) : Prop :=
  P (v.1 + Duration.fromSecs v.2) x ∧ secs x.pre.settings = v.2

/-- The step locks the lock screen of `s` out. -/
def ScreenLockoutFor (s : SessionId) : Instant × ℕ → Transition Daemon DaemonLabel → Prop :=
  LockoutFor (ScreenLockout s) fun settings => settings.lock.lockoutSecs

/-- The step locks the elevation prompts of `s` out. -/
def ElevationLockoutFor (s : SessionId) : Instant × ℕ → Transition Daemon DaemonLabel → Prop :=
  LockoutFor (ElevationLockout s) fun settings => settings.elevation.lockoutSecs

/-- A lockout of `len` seconds began at `since`; `configured`, the length of a lockout that would
    begin `now`, is `len` less the whole seconds that have passed. (A clock that went backwards
    would have to be made up for.) -/
def FollowsClock (configured len : ℕ) (since now : Instant) : Prop :=
  configured = if since ≤ now then len - Duration.asSecs (now - since)
    else len + Duration.ceilSecs (since - now)

/-- When the lock screen refuses an attempt for `s` unseen, the seconds it answers are those to the
    stored expiry. -/
def ScreenTells (d : Daemon) (s : SessionId) (now : Instant) : Prop :=
  ∀ (authenticator : Authenticator) (request : AuthRequest), request.sessionId = s →
    let attempt := d.locks.attemptUnlock authenticator request
      (authPolicy d.settings.authentication d.settings.lock) now
    attempt.calls = [] →
      ∃ expiry, d.locks.timeouts.lockoutExpiry.lookup s = some expiry
        ∧ attempt.outcome = .lockedOut (Duration.ceilSecs (expiry - now))

/-- When a prompt for `s` is refused for a lockout, the seconds in the error are those to the
    stored expiry. -/
def ElevationTells (d : Daemon) (s : SessionId) (now : Instant) : Prop :=
  ∀ (compositorConn requesterConn : ConnId) (secs : ℕ),
    d.elevation.begin s compositorConn requesterConn (ElevationPolicy.from d.settings.elevation)
        (elevationAuthPolicy d.settings.elevation) now = .error (.lockedOut secs) →
      ∃ expiry, d.elevation.timeouts.lockoutExpiry.lookup s = some expiry
        ∧ secs = Duration.ceilSecs (expiry - now)

section

variable {d : Daemon} {s : SessionId} {now : Instant} {tr : List (Transition Daemon DaemonLabel)}

section LockoutFor

variable {P : Instant → Transition Daemon DaemonLabel → Prop} {secs : Settings → ℕ}

theorem LockoutFor.unique (hP : ∀ x t t', P t x → P t' x → t = t')
    (x : Transition Daemon DaemonLabel) (v v' : Instant × ℕ) (h : LockoutFor P secs v x)
    (h' : LockoutFor P secs v' x) : v = v' := by
  have hlen : v.2 = v'.2 := h.2.symm.trans h'.2
  have hend := hP x _ _ h.1 h'.1
  rw [hlen] at hend
  exact Prod.ext (Nat.add_right_cancel hend) hlen

/-- The lockout that ends at `t`, with its beginning and its length. -/
theorem exists_latest_lockoutFor {t : Instant}
    (hP : ∀ x t, P t x → ∃ since, t = since + Duration.fromSecs (secs x.pre.settings))
    (h : Latest P tr t) :
    ∃ since len, Latest (LockoutFor P secs) tr (since, len)
      ∧ t = since + Duration.fromSecs len := by
  have hlift : ∀ x t, P t x →
      ∃ v, LockoutFor P secs v x ∧ v.1 + Duration.fromSecs v.2 = t := by
    intro x t hx
    obtain ⟨since, rfl⟩ := hP x t hx
    exact ⟨(since, secs x.pre.settings), ⟨hx, rfl⟩, rfl⟩
  obtain ⟨⟨since, len⟩, hlatest, ht⟩ := h.refine hlift fun _ _ hv => hv.1
  exact ⟨since, len, hlatest, ht.symm⟩

/-- During a lockout that ends at `expiry`, the configured length is the time that is left exactly
    if it has followed the clock since the lockout began. -/
theorem eq_remaining_iff (secs : Settings → ℕ) (hunique : ∀ x t t', P t x → P t' x → t = t')
    (hP : ∀ x t, P t x → ∃ since, t = since + Duration.fromSecs (secs x.pre.settings))
    {out : Prop} (hout : out) {configured : ℕ} {expiry : Instant} (hexpiry : Latest P tr expiry) :
    configured = Duration.ceilSecs (expiry - now) ↔
      (out → ∃ since len, Latest (LockoutFor P secs) tr (since, len)
        ∧ FollowsClock configured len since now) := by
  obtain ⟨since, len, hlatest, rfl⟩ := exists_latest_lockoutFor hP hexpiry
  rw [ceilSecs_remaining]
  constructor
  · intro hsecs _
    exact ⟨since, len, hlatest, hsecs⟩
  · intro h
    obtain ⟨since', len', hlatest', hfollows⟩ := h hout
    obtain ⟨rfl, rfl⟩ := Prod.mk.inj (hlatest'.unique (LockoutFor.unique hunique) hlatest)
    exact hfollows

end LockoutFor

theorem ScreenLockout.exists_since (x : Transition Daemon DaemonLabel) (t : Instant)
    (h : ScreenLockout s t x) :
    ∃ since, t = since + Duration.fromSecs x.pre.settings.lock.lockoutSecs := by
  obtain ⟨env, -, -, -, -, -, -, -, -, -, -, rfl⟩ := h
  exact ⟨env.now, rfl⟩

theorem ElevationLockout.exists_since (x : Transition Daemon DaemonLabel) (t : Instant)
    (h : ElevationLockout s t x) :
    ∃ since, t = since + Duration.fromSecs x.pre.settings.elevation.lockoutSecs := by
  obtain ⟨env, -, -, -, -, -, -, -, -, -, -, -, -, rfl⟩ := h
  exact ⟨env.now, rfl⟩

/-- What the lock screen answers is the lockout length configured now. -/
theorem screenTells_iff {expiry : Instant}
    (hout : (d.locks.entry s).state = .lockedOut)
    (hexpiry : d.locks.timeouts.lockoutExpiry.lookup s = some expiry) :
    ScreenTells d s now ↔
      d.settings.lock.lockoutSecs = Duration.ceilSecs (expiry - now) := by
  unfold ScreenTells
  simp only [hexpiry, Option.some.injEq, exists_eq_left']
  constructor
  · intro h
    have htold := h (fun _ => .ok ()) { sessionId := s, userName := "", password := "" } rfl
      ((LockManager.attemptUnlock_unseen_iff ..).2 hout)
    rw [d.locks.attemptUnlock_refused _ _ _ now hout] at htold
    simpa only [AuthOutcome.lockedOut.injEq, authPolicy, AuthPolicy.new, asSecs_fromSecs]
      using htold
  · rintro hsecs authenticator request rfl -
    rw [d.locks.attemptUnlock_refused _ _ _ now hout]
    simpa only [AuthOutcome.lockedOut.injEq, authPolicy, AuthPolicy.new, asSecs_fromSecs]
      using hsecs

/-- So is what `begin` answers. -/
theorem elevationTells_iff {expiry : Instant}
    (hout : (d.elevation.auth s).lockedOut = true)
    (hexpiry : d.elevation.timeouts.lockoutExpiry.lookup s = some expiry) :
    ElevationTells d s now ↔
      d.settings.elevation.lockoutSecs = Duration.ceilSecs (expiry - now) := by
  unfold ElevationTells
  simp only [hexpiry, Option.some.injEq, exists_eq_left', ElevationManager.begin, hout, if_true,
    Except.error.injEq, SessionError.lockedOut.injEq, elevationAuthPolicy, asSecs_fromSecs,
    forall_eq', forall_const]

/-- Nothing is refused for a lockout outside one. -/
theorem screenTells_of_open (h : (d.locks.entry s).state ≠ .lockedOut) : ScreenTells d s now := by
  rintro authenticator request rfl attempt hcalls
  exact absurd ((LockManager.attemptUnlock_unseen_iff ..).1 hcalls) h

theorem elevationTells_of_open (h : (d.elevation.auth s).lockedOut ≠ true) :
    ElevationTells d s now := by
  intro compositorConn requesterConn secs hrefused
  simp only [ElevationManager.begin, if_neg h] at hrefused
  split at hrefused <;> cases hrefused

end

/-- **When a refusal tells the time that is left.** In every state a run reaches and at every time:
    the seconds the lock screen answers a session that is locked out are those to its stored expiry,
    rounded up, if and only if the lockout length configured now is the one in force at the latest
    lockout of the session less the whole seconds since. The same holds of the refusals of
    `begin`. -/
theorem refusals_tell_remaining_iff {d₀ d : Daemon} {tr : List (Transition Daemon DaemonLabel)}
    (hinit : Initial d₀) (hrun : Run Step d₀ tr d) (s : SessionId) (now : Instant) :
    (ScreenTells d s now ↔
        ((d.locks.entry s).state = .lockedOut →
          ∃ since len, Latest (ScreenLockoutFor s) tr (since, len)
            ∧ FollowsClock d.settings.lock.lockoutSecs len since now))
      ∧ (ElevationTells d s now ↔
        ((d.elevation.auth s).lockedOut = true →
          ∃ since len, Latest (ElevationLockoutFor s) tr (since, len)
            ∧ FollowsClock d.settings.elevation.lockoutSecs len since now)) := by
  have htimed := timed hinit hrun
  constructor
  · by_cases hout : (d.locks.entry s).state = .lockedOut
    · obtain ⟨expiry, hexpiry⟩ := htimed.screen s hout
      rw [screenTells_iff hout hexpiry]
      exact eq_remaining_iff (P := ScreenLockout s) (fun settings => settings.lock.lockoutSecs)
        (fun _ _ _ => ScreenLockout.unique) ScreenLockout.exists_since hout
        (htimed.screenLatest s expiry hexpiry)
    · exact iff_of_true (screenTells_of_open hout) fun h => absurd h hout
  · by_cases hout : (d.elevation.auth s).lockedOut = true
    · obtain ⟨expiry, hexpiry⟩ := (htimed.elevation s).1 hout
      rw [elevationTells_iff hout hexpiry]
      exact eq_remaining_iff (P := ElevationLockout s)
        (fun settings => settings.elevation.lockoutSecs) (fun _ _ _ => ElevationLockout.unique)
        ElevationLockout.exists_since hout (htimed.elevationLatest s expiry hexpiry)
    · exact iff_of_true (elevationTells_of_open hout) fun h => absurd h hout

section Example

/-- Alice locks session 1, and three wrong guesses follow at second 1. -/
private def guessesAtOne : List (Env × DaemonEvent) :=
  let guess : Env × DaemonEvent := (demoEnv (Duration.fromSecs 1),
    .ipc (.command (demoCommand 7 1000 (.unlock 1 "alice" "1234"))))
  demoThen [(demoEnv 0, .ipc (.command (demoCommand 7 1000 (.lockSession 1)))), guess, guess, guess]

private theorem guessesAtOne_run :
    Run Step demo (demoTrace guessesAtOne) (System.demo.replay guessesAtOne).daemon :=
  demoTrace_run (show System.Admitted System.demo.conns guessesAtOne by decide)

/-- The third guess locks the session out until second 31. -/
private theorem guessesAtOne_out :
    ((System.demo.replay guessesAtOne).daemon.locks.entry 1).state = .lockedOut
      ∧ (System.demo.replay guessesAtOne).daemon.locks.timeouts.lockoutExpiry.lookup 1
        = some (Duration.fromSecs 31) := by
  decide

/-- Half a second later an attempt is told to wait 30 seconds, which is right. -/
theorem refusals_tell_remaining_at_once :
    ScreenTells (System.demo.replay guessesAtOne).daemon 1 1500000000
      ∧ ∃ since len, Latest (ScreenLockoutFor 1) (demoTrace guessesAtOne) (since, len)
        ∧ FollowsClock 30 len since 1500000000 := by
  have htells : ScreenTells (System.demo.replay guessesAtOne).daemon 1 1500000000 :=
    (screenTells_iff guessesAtOne_out.1 guessesAtOne_out.2).2 (by decide)
  exact ⟨htells, (refusals_tell_remaining_iff demo_initial guessesAtOne_run 1 1500000000).1.1
    htells guessesAtOne_out.1⟩

/-- Ten seconds later, with 20 seconds left, an attempt is still told to wait 30. -/
theorem refusals_tell_full_length :
    ¬ ∀ (d₀ d : Daemon) (tr : List (Transition Daemon DaemonLabel)), Initial d₀ →
      Run Step d₀ tr d → ∀ (s : SessionId) (now : Instant),
        ScreenTells d s now ∧ ElevationTells d s now := by
  intro h
  have htells := (h _ _ _ demo_initial guessesAtOne_run 1 (Duration.fromSecs 11)).1
  rw [screenTells_iff guessesAtOne_out.1 guessesAtOne_out.2] at htells
  revert htells
  decide

end Example

end Daemon

end MitosSession
