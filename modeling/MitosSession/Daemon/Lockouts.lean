import MitosSession.Daemon.Managers

set_option autoImplicit false

/-! # Lockouts and the timers that end them

A lockout is a flag in a session's record and a timer in another table: the lock screen's is
`LockState::LockedOut`, the elevation prompts' is `locked_out`. A failed check that returns
`LockedOut` sets both; the sweep of the idle tick drains the due timers and clears the flags of the
sessions they belong to. What keeps the two in step along every run of the daemon is that a timer
always holds the deadline of the latest such check (`Latest`): an older timer of the same session
is overwritten by a newer lockout, and one that a re-lock or a success left behind finds no flag to
clear. -/

namespace MitosSession

namespace LockManager

variable (m : LockManager) {s : SessionId} (authenticator : Authenticator) (request : AuthRequest)
  (policy : AuthPolicy) (now : Instant)

/-- Between two states no lockout of `s` began: a timer that is there was there before, a session
    that is locked out was so before and has kept its timer, and a lockout that is over left the
    session locked. -/
structure Quiet (s : SessionId) (m m' : LockManager) : Prop where
  timer : ∀ t, m'.timeouts.lockoutExpiry.lookup s = some t →
    m.timeouts.lockoutExpiry.lookup s = some t
  flag : (m'.entry s).state = .lockedOut → (m.entry s).state = .lockedOut
    ∧ m'.timeouts.lockoutExpiry.lookup s = m.timeouts.lockoutExpiry.lookup s
  ended : (m.entry s).state = .lockedOut →
    (m'.entry s).state = .lockedOut ∨ (m'.entry s).state = .locked

section

variable {m} {m' m'' : LockManager}

theorem Quiet.of_same (hentry : m'.entry s = m.entry s)
    (htimer : m'.timeouts.lockoutExpiry.lookup s = m.timeouts.lockoutExpiry.lookup s) :
    Quiet s m m' where
  timer := fun _ ht => htimer ▸ ht
  flag := fun h => ⟨hentry ▸ h, htimer⟩
  ended := fun h => Or.inl (hentry ▸ h)

theorem Engaged.quiet {P : SessionId → Prop} (h : Engaged P m m') (s : SessionId) :
    Quiet s m m' := by
  have htimer : m'.timeouts.lockoutExpiry.lookup s = m.timeouts.lockoutExpiry.lookup s := by
    rw [h.timeouts]
  rcases h.entry s with hsame | ⟨-, hlocked⟩
  · exact Quiet.of_same hsame htimer
  · refine ⟨fun t ht => htimer ▸ ht, fun hout => ?_, fun _ => Or.inr (by rw [hlocked])⟩
    rw [hlocked] at hout
    cases hout

/-- The sweep ends the lockouts that are due, into `Locked`. -/
theorem sweepLockouts_quiet (m : LockManager) (now : Instant) (s : SessionId) :
    Quiet s m (m.sweepLockouts now) := by
  refine ⟨fun t ht => (sweepLockouts_lockoutExpiry.1 ht).1, fun hout => ?_, fun hout => ?_⟩
  · rw [sweepLockouts_entry] at hout
    split at hout
    · unfold SessionLock.cleared at hout
      split at hout
      · cases hout
      · rename_i hopen
        exact absurd hout hopen
    · rename_i hdue
      refine ⟨hout, ?_⟩
      cases hl : m.timeouts.lockoutExpiry.lookup s with
      | none =>
          rw [Option.eq_none_iff_forall_ne_some]
          intro t ht
          rw [(sweepLockouts_lockoutExpiry.1 ht).1] at hl
          cases hl
      | some t =>
          have hlater : now < t := Nat.lt_of_not_le fun hle => hdue ⟨t, hl, hle⟩
          exact sweepLockouts_lockoutExpiry.2 ⟨hl, hlater⟩
  · rw [sweepLockouts_entry]
    split
    · unfold SessionLock.cleared
      rw [if_pos hout]
      exact Or.inr rfl
    · exact Or.inl hout

theorem Quiet.trans (h : Quiet s m m') (h' : Quiet s m' m'')
    (hlocked : (m'.entry s).state = .locked → (m''.entry s).state = .locked) :
    Quiet s m m'' where
  timer := fun t ht => h.timer t (h'.timer t ht)
  flag := fun hout => by
    obtain ⟨hout', htimer'⟩ := h'.flag hout
    obtain ⟨hout'', htimer⟩ := h.flag hout'
    exact ⟨hout'', htimer'.trans htimer⟩
  ended := fun hout => by
    rcases h.ended hout with hout' | hdone
    · exact h'.ended hout'
    · exact Or.inr (hlocked hdone)

theorem sweepLockouts_locked {now : Instant} (h : (m.entry s).state = .locked) :
    ((m.sweepLockouts now).entry s).state = .locked := by
  rw [sweepLockouts_entry]
  split
  · unfold SessionLock.cleared
    split
    · rfl
    · exact h
  · exact h

/-- An attempt that is not a failed check answered `LockedOut`. -/
theorem attemptUnlock_quiet
    (h : s = request.sessionId →
      (m.attemptUnlock authenticator request policy now).calls ≠ [] →
      ∀ secs, (m.attemptUnlock authenticator request policy now).outcome ≠ .lockedOut secs) :
    Quiet s m (m.attemptUnlock authenticator request policy now).manager := by
  by_cases hs : s = request.sessionId
  · subst hs
    by_cases hlocked : (m.entry request.sessionId).state = .lockedOut
    · rw [attemptUnlock_refused m authenticator request policy now hlocked]
      -- refused without a check, though the answer says `LockedOut`
      refine Quiet.of_same ?_ rfl
      rw [entry_insert, if_pos rfl]
    · cases ha : authenticator.accepts request with
      | true =>
          rw [attemptUnlock_accepted m authenticator request policy now hlocked ha]
          refine ⟨fun t ht => ht, fun hout => ?_, fun hout => absurd hout hlocked⟩
          rw [entry_insert, if_pos rfl] at hout
          cases hout
      | false =>
          have heq := attemptUnlock_rejected m authenticator request policy now hlocked ha
          -- at the limit the check answers `LockedOut`, which is excluded
          by_cases hlimit : wrapU32 ((m.entry request.sessionId).attempts + 1) ≥ policy.maxAttempts
          · rw [if_pos hlimit] at heq
            rw [heq] at h
            exact absurd rfl (h rfl (by simp) _)
          · rw [if_neg hlimit] at heq
            rw [heq]
            refine ⟨fun t ht => ht, fun hout => ?_, fun hout => absurd hout hlocked⟩
            rw [entry_insert, if_pos rfl] at hout
            exact absurd hout hlocked
  · obtain ⟨hlookup, htimer⟩ := attemptUnlock_frame m authenticator request policy now hs
    exact Quiet.of_same (entry_eq_of_lookup hlookup) htimer

end

end LockManager

namespace ElevationManager

/-- Between two states no lockout of `s` began: flag and timer are as they were, or both are
    gone. -/
def Quiet (s : SessionId) (m m' : ElevationManager) : Prop :=
  ((m'.auth s).lockedOut = (m.auth s).lockedOut
      ∧ m'.timeouts.lockoutExpiry.lookup s = m.timeouts.lockoutExpiry.lookup s)
    ∨ ((m'.auth s).lockedOut = false ∧ m'.timeouts.lockoutExpiry.lookup s = none)

section

variable {m m' : ElevationManager} {s : SessionId}

theorem SameRecords.quiet (h : SameRecords m m') (s : SessionId) : Quiet s m m' := by
  refine Or.inl ⟨?_, by rw [h.lockoutExpiry]⟩
  simp only [auth, h.sessionAuth]

/-- The sweep ends the lockouts that are due, and no other. -/
theorem clearExpiredLockouts_quiet (m : ElevationManager) (now : Instant) (s : SessionId) :
    Quiet s m (m.clearExpiredLockouts now) := by
  have hkept : ∀ t, (m.clearExpiredLockouts now).timeouts.lockoutExpiry.lookup s = some t →
      m.timeouts.lockoutExpiry.lookup s = some t ∧ now < t := fun t =>
    clearExpiredLockouts_lockoutExpiry.1
  by_cases hdue : ∃ t, m.timeouts.lockoutExpiry.lookup s = some t ∧ t ≤ now
  · refine Or.inr ⟨by rw [clearExpiredLockouts_record, if_pos hdue], ?_⟩
    obtain ⟨t, ht, hle⟩ := hdue
    rw [Option.eq_none_iff_forall_ne_some]
    intro t' ht'
    obtain ⟨hl, hlater⟩ := hkept t' ht'
    rw [ht] at hl
    obtain rfl := Option.some.inj hl
    exact absurd hlater (Nat.not_lt.2 hle)
  · refine Or.inl ⟨by rw [clearExpiredLockouts_record, if_neg hdue], ?_⟩
    cases hl : m.timeouts.lockoutExpiry.lookup s with
    | none =>
        rw [Option.eq_none_iff_forall_ne_some]
        intro t ht
        rw [(hkept t ht).1] at hl
        cases hl
    | some t =>
        have hlater : now < t := Nat.lt_of_not_le fun hle => hdue ⟨t, hl, hle⟩
        exact clearExpiredLockouts_lockoutExpiry.2 ⟨hl, hlater⟩

/-- After an answer that was not answered `LockedOut` for `s`. -/
theorem attempt_quiet {policy : AuthPolicy} {id : ElevationRequestId} {p : PendingElevation}
    {authenticator : Authenticator} {request : AuthRequest} {now : Instant}
    {out : ElevationAttempt} (hp : m.pending.lookup id = some p)
    (hout : m.attempt id authenticator request policy now = some out)
    (h : s = p.sessionId → ∀ secs, out.resolved.outcome ≠ .lockedOut secs) :
    Quiet s m out.manager := by
  cases ha : authenticator.accepts request with
  | true =>
      rw [attempt_accepted policy now hp ha] at hout
      obtain rfl := Option.some.inj hout
      refine Or.inl ⟨?_, rfl⟩
      -- an accepted answer leaves flag and timer alone, even those of a lockout that still runs
      simp only [close, auth, Table.lookup_insert_eq]
      split
      · rename_i hs
        rw [hs]
        rfl
      · rfl
  | false =>
      rw [attempt_rejected policy now hp ha] at hout
      split at hout
      · obtain rfl := Option.some.inj hout
        have hs : s ≠ p.sessionId := fun hs => h hs _ rfl
        refine Or.inl ⟨?_, ?_⟩
        · simp only [close, auth, Table.lookup_insert_eq, if_neg hs]
        · simp only [close, ElevationTimeouts.cancelPrompt, ElevationTimeouts.startLockout,
            Table.lookup_insert_eq, if_neg hs]
      · obtain rfl := Option.some.inj hout
        refine Or.inl ⟨?_, rfl⟩
        simp only [auth, Table.lookup_insert_eq]
        split
        · rename_i hs
          rw [hs]
          rfl
        · rfl

/-- An answer that returns `LockedOut` sets the flag and the timer. -/
theorem attempt_starts {policy : AuthPolicy} {id : ElevationRequestId} {p : PendingElevation}
    {authenticator : Authenticator} {request : AuthRequest} {now : Instant} {secs : ℕ}
    {out : ElevationAttempt} (hp : m.pending.lookup id = some p)
    (hout : m.attempt id authenticator request policy now = some out)
    (h : out.resolved.outcome = .lockedOut secs) :
    (out.manager.auth p.sessionId).lockedOut = true
      ∧ out.manager.timeouts.lockoutExpiry.lookup p.sessionId = some (now + policy.lockout) := by
  cases ha : authenticator.accepts request with
  | true =>
      rw [attempt_accepted policy now hp ha] at hout
      obtain rfl := Option.some.inj hout
      cases h
  | false =>
      rw [attempt_rejected policy now hp ha] at hout
      split at hout
      · obtain rfl := Option.some.inj hout
        simp only [close, auth, ElevationTimeouts.cancelPrompt, ElevationTimeouts.startLockout,
          AList.lookup_insert, Option.getD_some, and_self]
      · obtain rfl := Option.some.inj hout
        cases h

end

end ElevationManager

namespace Daemon

/-! ## What starts a lockout -/

/-- The step is an authorized `Unlock` for `s` whose credential was checked and answered
    `LockedOut`; `t` is when it happened plus the lockout in force then. -/
def ScreenLockout (s : SessionId) (t : Instant) (x : Transition Daemon DaemonLabel) : Prop :=
  ∃ env cmd effects userName password secs, x.label = .handled env (.ipc (.command cmd)) effects
    ∧ authorize env.userByName cmd.peer cmd.connId cmd.request x.pre.sessions x.pre.elevation
      = .ok ()
    ∧ cmd.request = .unlock s userName password
    ∧ (x.pre.unlockAttempt env s userName password).calls ≠ []
    ∧ (x.pre.unlockAttempt env s userName password).outcome = .lockedOut secs
    ∧ t = env.now + (authPolicy x.pre.settings.authentication x.pre.settings.lock).lockout

/-- The step is an authorized answer to a prompt of `s` that was answered `LockedOut`; `t` is when
    it happened plus the elevation lockout in force then. -/
def ElevationLockout (s : SessionId) (t : Instant) (x : Transition Daemon DaemonLabel) : Prop :=
  ∃ env cmd effects requestId password p secs,
    x.label = .handled env (.ipc (.command cmd)) effects
    ∧ authorize env.userByName cmd.peer cmd.connId cmd.request x.pre.sessions x.pre.elevation
      = .ok ()
    ∧ cmd.request = .respondElevation requestId (.password password)
    ∧ x.pre.elevation.pending.lookup requestId = some p ∧ p.sessionId = s
    ∧ (x.pre.respondElevation env requestId (.password password)).response
      = some (.authResult (.lockedOut secs))
    ∧ t = env.now + (elevationAuthPolicy x.pre.settings.elevation).lockout

section

variable {d d' : Daemon} {env : Env} {event : DaemonEvent} {effects : List Effect}
  {s : SessionId} {t : Instant}

theorem ScreenLockout.unique {x : Transition Daemon DaemonLabel} {t' : Instant}
    (h : ScreenLockout s t x) (h' : ScreenLockout s t' x) : t = t' := by
  obtain ⟨env, cmd, effects, -, -, -, hlabel, -, -, -, -, rfl⟩ := h
  obtain ⟨env', cmd', effects', -, -, -, hlabel', -, -, -, -, rfl⟩ := h'
  rw [hlabel] at hlabel'
  cases hlabel'
  rfl

theorem ElevationLockout.unique {x : Transition Daemon DaemonLabel} {t' : Instant}
    (h : ElevationLockout s t x) (h' : ElevationLockout s t' x) : t = t' := by
  obtain ⟨env, cmd, effects, -, -, -, -, hlabel, -, -, -, -, -, rfl⟩ := h
  obtain ⟨env', cmd', effects', -, -, -, -, hlabel', -, -, -, -, -, rfl⟩ := h'
  rw [hlabel] at hlabel'
  cases hlabel'
  rfl

/-- Such an `Unlock` leaves the timer at its deadline. -/
theorem ScreenLockout.timer
    (h : ScreenLockout s t ⟨d, .handled env event effects, d'⟩) :
    (d.handle env event).1.locks.timeouts.lockoutExpiry.lookup s = some t
      ∧ (d.locks.entry s).state ≠ .lockedOut := by
  obtain ⟨env', cmd, effects', userName, password, secs, hlabel, hauth, hrequest, hcalls, hout,
    rfl⟩ := h
  cases hlabel
  refine ⟨?_, fun hlocked => hcalls ((LockManager.attemptUnlock_unseen_iff ..).2 hlocked)⟩
  rw [handle_authorized hauth, hrequest]
  simp only [dispatch, unlock_locks]
  exact (LockManager.attemptUnlock_starts _ _ _ _ _ hcalls hout).2

/-- Any other event is quiet about the lock screen of `s`. -/
theorem handle_screen_quiet (h : ∀ t, ¬ ScreenLockout s t ⟨d, .handled env event effects, d'⟩) :
    LockManager.Quiet s d.locks (d.handle env event).1.locks := by
  have hlocks := handle_locksTo d env event
  generalize (d.handle env event).1.locks = locks at hlocks ⊢
  cases hlocks with
  | same _ hevent hlocks htimeouts =>
      refine LockManager.Quiet.of_same (LockManager.entry_eq_of_lookup ?_) ?_
      · rw [hlocks]
      · rw [htimeouts]
  | locked cmd hauth hrequest hlock =>
      exact (LockManager.lock_engaged (P := fun _ => True) trivial hlock).quiet s
  | attempted cmd hauth hrequest =>
      refine LockManager.attemptUnlock_quiet _ _ _ _ ?_
      rintro rfl hcalls secs hout
      exact h _ ⟨env, cmd, effects, _, _, secs, rfl, hauth, hrequest, hcalls, hout, rfl⟩
  | suspended cmd hrequest => exact (idleSuspend_engaged d env).quiet s
  | ticked =>
      -- first the stage changes, which may lock again, then the sweep over the timers
      exact ((staged_engaged d env).quiet s).trans (LockManager.sweepLockouts_quiet _ _ s)
        LockManager.sweepLockouts_locked

theorem ElevationLockout.timer
    (h : ElevationLockout s t ⟨d, .handled env event effects, d'⟩) :
    ((d.handle env event).1.elevation.auth s).lockedOut = true
      ∧ (d.handle env event).1.elevation.timeouts.lockoutExpiry.lookup s = some t := by
  obtain ⟨env', cmd, effects', requestId, password, p, secs, hlabel, hauth, hrequest, hp, rfl,
    hresponse, rfl⟩ := h
  cases hlabel
  rw [handle_authorized hauth, hrequest]
  simp only [dispatch]
  rcases respondElevation_cases d env requestId (.password password) with
    ⟨e, heq⟩
      | ⟨p', hp', ⟨hcancelled, -⟩ | ⟨password', ctx, attempt, hpassword, hctx, hattempt, heq⟩⟩
  · rw [heq] at hresponse
    cases hresponse
  · cases hcancelled
  · rw [hp] at hp'
    obtain rfl := Option.some.inj hp'
    rw [heq] at hresponse ⊢
    have hout : attempt.resolved.outcome = .lockedOut secs := by
      simpa using hresponse
    exact ElevationManager.attempt_starts hp hattempt hout

/-- Any other event is quiet about the elevation prompts of `s`. -/
theorem handle_elevation_quiet
    (h : ∀ t, ¬ ElevationLockout s t ⟨d, .handled env event effects, d'⟩) :
    ElevationManager.Quiet s d.elevation (d.handle env event).1.elevation := by
  have helevates := handle_elevates d env event
  generalize (d.handle env event).1.elevation = elevation at helevates ⊢
  cases helevates with
  | same => exact Or.inl ⟨rfl, rfl⟩
  | begun cmd hrequest hctx hbegin =>
      obtain ⟨-, -, rfl⟩ := ElevationManager.begin_eq_ok_iff.1 hbegin
      exact Or.inl ⟨rfl, rfl⟩
  | cancelled cmd hrequest => exact Or.inl ⟨rfl, rfl⟩
  | attempted cmd hauth hrequest hp hctx hattempt hresponse =>
      refine ElevationManager.attempt_quiet hp hattempt fun hs secs hout => ?_
      rw [hout] at hresponse
      exact h _ ⟨env, cmd, effects, _, _, _, secs, rfl, hauth, hrequest, hp, hs.symm, hresponse,
        rfl⟩
  | abandoned _ hevent predicate => exact (ElevationManager.takeAll_spec _ _).2.2.quiet s
  | ticked =>
      have hsweep := ElevationManager.clearExpiredLockouts_quiet d.elevation env.now s
      have hsame := (ElevationManager.expirePending_spec
        (d.elevation.clearExpiredLockouts env.now) env.now).2
      unfold ElevationManager.Quiet ElevationManager.auth at hsweep ⊢
      rw [hsame.sessionAuth, hsame.lockoutExpiry]
      exact hsweep
  | reloaded uid => exact Or.inl ⟨rfl, rfl⟩

end

/-! ## Along a run -/

/-- Every lockout has a timer, and every timer is that of the latest lockout. -/
structure Timed (tr : List (Transition Daemon DaemonLabel)) (d : Daemon) : Prop where
  screen : ∀ s, (d.locks.entry s).state = .lockedOut →
    ∃ t, d.locks.timeouts.lockoutExpiry.lookup s = some t
  screenLatest : ∀ s t, d.locks.timeouts.lockoutExpiry.lookup s = some t →
    Latest (ScreenLockout s) tr t
  elevation : ∀ s, (d.elevation.auth s).lockedOut = true ↔
    ∃ t, d.elevation.timeouts.lockoutExpiry.lookup s = some t
  elevationLatest : ∀ s t, d.elevation.timeouts.lockoutExpiry.lookup s = some t →
    Latest (ElevationLockout s) tr t

section

variable {d d' : Daemon} {tr : List (Transition Daemon DaemonLabel)}

theorem Initial.timed (h : Initial d) : Timed [] d := by
  obtain ⟨settings, seats, authenticator, uid, powerBackend, socketPath, rfl⟩ := h.eq
  constructor <;> simp [LockManager.entry, ElevationManager.auth]

theorem Timed.handle_screen (h : Timed tr d) (env : Env) (event : DaemonEvent)
    (s : SessionId) :
    let x : Transition Daemon DaemonLabel :=
      ⟨d, .handled env event (d.handle env event).2, (d.handle env event).1⟩
    (((d.handle env event).1.locks.entry s).state = .lockedOut →
        ∃ t, (d.handle env event).1.locks.timeouts.lockoutExpiry.lookup s = some t)
      ∧ ∀ t, (d.handle env event).1.locks.timeouts.lockoutExpiry.lookup s = some t →
        Latest (ScreenLockout s) (tr ++ [x]) t := by
  intro x
  by_cases hx : ∃ t, ScreenLockout s t x
  · obtain ⟨t, ht⟩ := hx
    -- the new deadline replaces any older one
    refine ⟨fun _ => ⟨t, ht.timer.1⟩, fun t' ht' => ?_⟩
    rw [ht.timer.1] at ht'
    obtain rfl := Option.some.inj ht'
    exact Latest.last ht
  · have hnone : ∀ t, ¬ ScreenLockout s t x := fun t ht => hx ⟨t, ht⟩
    have hquiet := handle_screen_quiet hnone
    refine ⟨fun hout => ?_, fun t ht => (h.screenLatest s t (hquiet.timer t ht)).snoc hnone⟩
    obtain ⟨hbefore, htimer⟩ := hquiet.flag hout
    rw [htimer]
    exact h.screen s hbefore

theorem Timed.handle_elevation (h : Timed tr d) (env : Env) (event : DaemonEvent)
    (s : SessionId) :
    let x : Transition Daemon DaemonLabel :=
      ⟨d, .handled env event (d.handle env event).2, (d.handle env event).1⟩
    (((d.handle env event).1.elevation.auth s).lockedOut = true ↔
        ∃ t, (d.handle env event).1.elevation.timeouts.lockoutExpiry.lookup s = some t)
      ∧ ∀ t, (d.handle env event).1.elevation.timeouts.lockoutExpiry.lookup s = some t →
        Latest (ElevationLockout s) (tr ++ [x]) t := by
  intro x
  by_cases hx : ∃ t, ElevationLockout s t x
  · obtain ⟨t, ht⟩ := hx
    obtain ⟨hflag, htimer⟩ := ht.timer
    refine ⟨⟨fun _ => ⟨t, htimer⟩, fun _ => hflag⟩, fun t' ht' => ?_⟩
    rw [htimer] at ht'
    obtain rfl := Option.some.inj ht'
    exact Latest.last ht
  · have hnone : ∀ t, ¬ ElevationLockout s t x := fun t ht => hx ⟨t, ht⟩
    rcases handle_elevation_quiet hnone with ⟨hflag, htimer⟩ | ⟨hflag, htimer⟩
    · rw [hflag, htimer]
      exact ⟨h.elevation s, fun t ht => (h.elevationLatest s t ht).snoc hnone⟩
    · rw [hflag, htimer]
      simp

theorem Timed.rehash (h : Timed tr d) (hr : Rehash d d') : Timed (tr ++ [⟨d, .rehash, d'⟩]) d' := by
  have hscreen : ∀ s t, ¬ ScreenLockout s t ⟨d, .rehash, d'⟩ := by
    rintro s t ⟨env, cmd, effects, -, -, -, hlabel, -⟩
    cases hlabel
  have helevation : ∀ s t, ¬ ElevationLockout s t ⟨d, .rehash, d'⟩ := by
    rintro s t ⟨env, cmd, effects, -, -, -, -, hlabel, -⟩
    cases hlabel
  refine ⟨fun s hout => ?_, fun s t ht => ?_, fun s => ?_, fun s t ht => ?_⟩
  · rw [hr.locks.entry_eq] at hout
    rw [hr.locks.lockoutExpiry.lookup_eq]
    exact h.screen s hout
  · rw [hr.locks.lockoutExpiry.lookup_eq] at ht
    exact (h.screenLatest s t ht).snoc (hscreen s)
  · rw [hr.elevation.auth_eq, hr.elevation.lockoutExpiry.lookup_eq]
    exact h.elevation s
  · rw [hr.elevation.lockoutExpiry.lookup_eq] at ht
    exact (h.elevationLatest s t ht).snoc (helevation s)

theorem timed {d₀ : Daemon} (hinit : Initial d₀) (hrun : Run Step d₀ tr d) : Timed tr d := by
  refine hrun.history (P := Timed) hinit.timed ?_
  intro tr d l d' _ h hstep
  cases hstep with
  | handled env event =>
      exact ⟨fun s => (h.handle_screen env event s).1, fun s => (h.handle_screen env event s).2,
        fun s => (h.handle_elevation env event s).1, fun s => (h.handle_elevation env event s).2⟩
  | rehash hr => exact h.rehash hr

/-! ## The sweep -/

/-- What `on_idle_tick(now)` does about lockouts, from a state reached by `tr`. -/
structure Sweeps (tr : List (Transition Daemon DaemonLabel)) (d : Daemon) (env : Env) : Prop where
  /-- What is due is over. -/
  due : ∀ s t, t ≤ env.now →
    (d.locks.timeouts.lockoutExpiry.lookup s = some t →
      ((d.onIdleTick env).1.locks.entry s).state ≠ .lockedOut)
    ∧ (d.elevation.timeouts.lockoutExpiry.lookup s = some t →
      ((d.onIdleTick env).1.elevation.auth s).lockedOut = false)
  /-- What is not due is left as the stage changes of the same tick left it. -/
  notDue : ∀ s t, env.now < t →
    (d.locks.timeouts.lockoutExpiry.lookup s = some t →
      (d.onIdleTick env).1.locks.entry s = (d.staged env).locks.entry s)
    ∧ (d.elevation.timeouts.lockoutExpiry.lookup s = some t →
      (d.onIdleTick env).1.elevation.auth s = d.elevation.auth s)
  /-- So is a lockout before its own deadline, whatever timers there are. -/
  notStale : ∀ s t, env.now < t →
    (Latest (ScreenLockout s) tr t →
      (d.onIdleTick env).1.locks.entry s = (d.staged env).locks.entry s)
    ∧ (Latest (ElevationLockout s) tr t →
      (d.onIdleTick env).1.elevation.auth s = d.elevation.auth s)

theorem onIdleTick_entry (d : Daemon) (env : Env) (s : SessionId) :
    (d.onIdleTick env).1.locks.entry s
      = if ∃ t, d.locks.timeouts.lockoutExpiry.lookup s = some t ∧ t ≤ env.now then
          ((d.staged env).locks.entry s).cleared
        else
          (d.staged env).locks.entry s := by
  rw [← (staged_engaged d env).timeouts]
  exact LockManager.sweepLockouts_entry (d.staged env).locks env.now s

theorem onIdleTick_auth (d : Daemon) (env : Env) (s : SessionId) :
    (d.onIdleTick env).1.elevation.auth s
      = if ∃ t, d.elevation.timeouts.lockoutExpiry.lookup s = some t ∧ t ≤ env.now then {}
        else d.elevation.auth s := by
  rw [onIdleTick_elevation, ← ElevationManager.clearExpiredLockouts_record]
  simp only [ElevationManager.auth, (ElevationManager.expirePending_spec _ _).2.sessionAuth]

theorem cleared_state_ne (lock : SessionLock) : lock.cleared.state ≠ .lockedOut := by
  unfold SessionLock.cleared
  split
  · exact LockState.noConfusion
  · assumption

/-- A timer that is there is the latest one, so none that is due precedes a later deadline. -/
theorem not_due_of_latest {P : Instant → Transition Daemon DaemonLabel → Prop}
    {timer : Option Instant} {now t : Instant} (hP : ∀ x t t', P t x → P t' x → t = t')
    (htimer : ∀ t, timer = some t → Latest P tr t) (hlater : now < t) (hlatest : Latest P tr t) :
    ¬ ∃ t, timer = some t ∧ t ≤ now := by
  rintro ⟨t', ht', hle⟩
  obtain rfl := hlatest.unique hP (htimer t' ht')
  exact absurd hlater (Nat.not_lt.2 hle)

theorem Timed.sweeps (h : Timed tr d) (env : Env) : Sweeps tr d env := by
  have hscreen : ∀ s t, env.now < t → Latest (ScreenLockout s) tr t →
      ¬ ∃ t, d.locks.timeouts.lockoutExpiry.lookup s = some t ∧ t ≤ env.now := fun s _ =>
    not_due_of_latest (P := ScreenLockout s) (fun _ _ _ => ScreenLockout.unique) (h.screenLatest s)
  have helevation : ∀ s t, env.now < t → Latest (ElevationLockout s) tr t →
      ¬ ∃ t, d.elevation.timeouts.lockoutExpiry.lookup s = some t ∧ t ≤ env.now := fun s _ =>
    not_due_of_latest (P := ElevationLockout s) (fun _ _ _ => ElevationLockout.unique)
      (h.elevationLatest s)
  have hstale : ∀ s t, env.now < t →
      (Latest (ScreenLockout s) tr t →
        (d.onIdleTick env).1.locks.entry s = (d.staged env).locks.entry s)
      ∧ (Latest (ElevationLockout s) tr t →
        (d.onIdleTick env).1.elevation.auth s = d.elevation.auth s) := by
    intro s t hlater
    constructor
    · intro hlatest
      rw [onIdleTick_entry, if_neg (hscreen s t hlater hlatest)]
    · intro hlatest
      rw [onIdleTick_auth, if_neg (helevation s t hlater hlatest)]
  refine ⟨fun s t hle => ⟨fun ht => ?_, fun ht => ?_⟩,
    fun s t hlater => ⟨fun ht => ?_, fun ht => ?_⟩, hstale⟩
  · rw [onIdleTick_entry, if_pos ⟨t, ht, hle⟩]
    exact cleared_state_ne _
  · rw [onIdleTick_auth, if_pos ⟨t, ht, hle⟩]
  · exact (hstale s t hlater).1 (h.screenLatest s t ht)
  · exact (hstale s t hlater).2 (h.elevationLatest s t ht)

/-- A step that ends a screen lockout leaves the session `Locked`. -/
theorem step_ends_locked {l : DaemonLabel} {s : SessionId} (hstep : Step d l d')
    (h : (d.locks.entry s).state = .lockedOut) (h' : (d'.locks.entry s).state ≠ .lockedOut) :
    (d'.locks.entry s).state = .locked := by
  cases hstep with
  | handled env event =>
      have hquiet := handle_screen_quiet fun t
        (ht : ScreenLockout s t ⟨d, .handled env event [], d⟩) => ht.timer.2 h
      rcases hquiet.ended h with hout | hlocked
      · exact absurd hout h'
      · exact hlocked
  | rehash hr =>
      rw [hr.locks.entry_eq] at h'
      exact absurd h h'

end

/-- **Lockouts end, on time and into `Locked`.** In every state a run of the daemon reaches: a
    session in `LockState::LockedOut` has a timer, which is due at the time of the latest failed
    check that returned `LockedOut` for it plus the lockout in force then; the elevation flag is set
    exactly when there is an elevation timer, whose value is found the same way. A step that ends a
    screen lockout leaves `Locked`. The idle tick ends every lockout that is due and none that is
    not, whatever older timers were left behind. -/
theorem lockouts_end {d₀ d : Daemon} {tr : List (Transition Daemon DaemonLabel)}
    (hinit : Initial d₀) (hrun : Run Step d₀ tr d) :
    (∀ s, (d.locks.entry s).state = .lockedOut →
        ∃ t, d.locks.timeouts.lockoutExpiry.lookup s = some t ∧ Latest (ScreenLockout s) tr t)
      ∧ (∀ s, (d.elevation.auth s).lockedOut = true ↔
        ∃ t, d.elevation.timeouts.lockoutExpiry.lookup s = some t)
      ∧ (∀ s t, d.elevation.timeouts.lockoutExpiry.lookup s = some t →
        Latest (ElevationLockout s) tr t)
      ∧ (∀ l d' s, Step d l d' → (d.locks.entry s).state = .lockedOut →
        (d'.locks.entry s).state ≠ .lockedOut → (d'.locks.entry s).state = .locked)
      ∧ ∀ env, Sweeps tr d env := by
  have h := timed hinit hrun
  refine ⟨fun s hout => ?_, h.elevation, h.elevationLatest,
    fun l d' s hstep => step_ends_locked hstep, h.sweeps⟩
  obtain ⟨t, ht⟩ := h.screen s hout
  exact ⟨t, ht, h.screenLatest s t ht⟩

section Example

/-- Alice locks session 1, and three wrong guesses follow, a second after. -/
private def threeGuesses : List (Env × DaemonEvent) :=
  let guess : Env × DaemonEvent := (demoEnv (Duration.fromSecs 1),
    .ipc (.command (demoCommand 7 1000 (.unlock 1 "alice" "1234"))))
  demoThen [(demoEnv 0, .ipc (.command (demoCommand 7 1000 (.lockSession 1)))), guess, guess, guess]

/-- The third guess locks the session out until second 31, when the tick lets it try again. -/
theorem lockouts_end_after_guesses :
    ((System.demo.replay threeGuesses).daemon.locks.entry 1).state = .lockedOut
      ∧ (System.demo.replay threeGuesses).daemon.locks.timeouts.lockoutExpiry.lookup 1
        = some (Duration.fromSecs 31)
      ∧ Latest (ScreenLockout 1) (demoTrace threeGuesses) (Duration.fromSecs 31)
      ∧ (((System.demo.replay threeGuesses).daemon.onIdleTick
          (demoEnv (Duration.fromSecs 31))).1.locks.entry 1).state ≠ .lockedOut := by
  have hend := lockouts_end demo_initial
    (demoTrace_run (show System.Admitted System.demo.conns threeGuesses by decide))
  have hout : ((System.demo.replay threeGuesses).daemon.locks.entry 1).state = .lockedOut := by
    decide
  have htimer : (System.demo.replay threeGuesses).daemon.locks.timeouts.lockoutExpiry.lookup 1
      = some (Duration.fromSecs 31) := by
    decide
  obtain ⟨t, ht, hlatest⟩ := hend.1 1 hout
  rw [htimer] at ht
  obtain rfl := Option.some.inj ht
  exact ⟨hout, htimer, hlatest,
    ((hend.2.2.2.2 (demoEnv (Duration.fromSecs 31))).due 1 _ (Nat.le_refl _)).1 htimer⟩

end Example

end Daemon

end MitosSession
