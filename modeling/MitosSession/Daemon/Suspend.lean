import MitosSession.Daemon.Sessions

set_option autoImplicit false

/-! # What is locked when the machine goes to sleep

`power::suspend` asks the lock manager to lock every session and drops the answers. With locking
on suspend configured, the one thing that can make `lock` fail is a `Block` inhibitor on the lock
screen, and then it fails for every session alike: the machine goes to sleep with whatever was
locked before. `sleeps_locked_iff` says so for both ways into `power::suspend`, the request and the
idle tick. -/

namespace MitosSession

/-- Every session whose user has a usable password is locked. -/
def AllLocked (shadow : Option String) (sessions : SessionManager) (locks : LockManager) : Prop :=
  ∀ s ctx, sessions.sessions.lookup s = some ctx →
    userHasPassword shadow ctx.session.userName = true → locks.isLocked s = true

namespace Daemon

variable {d : Daemon} {env : Env} {sessions : SessionManager} {locks : LockManager}

/-! ## Where the backend is called -/

theorem mem_sendEventTo {registry : ConnRegistry} {conn : Option ConnId} {event : Event}
    {e : Effect} (h : e ∈ registry.sendEventTo conn event) :
    ∃ c, conn = some c ∧ e = registry.sendEvent c event := by
  cases conn with
  | none => simp [ConnRegistry.sendEventTo] at h
  | some c => exact ⟨c, rfl, by simpa [ConnRegistry.sendEventTo] using h⟩

/-- The backend is called with the sessions as they are and the locks as `power::suspend` leaves
    them. -/
theorem backendSuspend_mem_idleSuspend
    (h : Effect.backendSuspend sessions locks ∈ (d.idleSuspend env).2) :
    d.locks.inhibitors.blocks .suspend = false ∧ sessions = d.sessions
      ∧ locks = (d.idleSuspend env).1.locks := by
  have hloop : ∀ (visited : List SessionContext) (before : LockManager),
      Effect.backendSuspend sessions locks
        ∉ (forEach (suspendSession (LockPolicy.from d.settings.lock) d.registry) before
          visited).2 := by
    intro visited
    induction visited with
    | nil => simp
    | cons ctx rest ih =>
        intro before hmem
        rw [forEach_cons] at hmem
        rcases List.mem_append.1 hmem with hmem | hmem
        · obtain ⟨_, _, heq⟩ := mem_sendEventTo hmem
          cases heq
        · exact ih _ hmem
  simp only [idleSuspend, MitosSession.suspend] at h ⊢
  split at h
  · cases h
  · rename_i hblocks
    simp only [List.mem_append, List.mem_singleton] at h
    rcases h with (hwait | hmem) | heq
    · unfold waitForDelayers at hwait
      split at hwait <;> simp at hwait
    · exact absurd hmem (hloop _ _)
    · obtain ⟨rfl, rfl⟩ := Effect.backendSuspend.inj heq
      simp [hblocks]

theorem backendSuspend_notMem_showLock (k : SessionId) (reason : LockReason) :
    Effect.backendSuspend sessions locks ∉ (d.showLock k reason).2 := by
  unfold showLock
  split
  · simp
  · intro hmem
    obtain ⟨_, _, heq⟩ := mem_sendEventTo hmem
    cases heq

theorem backendSuspend_notMem_idleChange {change : String × IdleStage}
    (h : change.2 ≠ .suspendRequested) :
    Effect.backendSuspend sessions locks ∉ (idleChange env d change).2 := by
  obtain ⟨seatId, stage⟩ := change
  cases stage with
  | active => simp [idleChange]
  | dimmed =>
      simp only [idleChange, notifyActiveCompositor]
      split
      · split
        · intro hmem
          obtain ⟨_, _, heq⟩ := mem_sendEventTo hmem
          cases heq
        · simp
      · simp
  | lockRequested =>
      simp only [idleChange]
      rcases idleLock_shows d env seatId with heq | ⟨sessionId, locks, -, heq⟩
      · simp [heq]
      · rw [heq]
        exact backendSuspend_notMem_showLock _ _
  | suspendRequested => exact absurd rfl h

theorem backendSuspend_notMem_sweep (now : Instant) :
    Effect.backendSuspend sessions locks ∉ (d.sweep now).2 := by
  simp only [sweep, List.mem_flatMap, not_exists, not_and]
  intro abandoned _
  simp [notifyElevationAbandoned, ConnRegistry.sendEvent, ConnRegistry.sendResponse]

/-! ## With the lock screen blocked -/

theorem idleSuspend_blocked (h : d.locks.inhibitors.blocks .lock = true) :
    (d.idleSuspend env).1 = d := by
  simp only [idleSuspend, MitosSession.suspend]
  split
  · rfl
  · simp only [forEach_suspendSession_blocked _ _ _ h]

/-- No stage of the tick changes anything while the lock screen is blocked. -/
theorem idleChange_blocked (h : d.locks.inhibitors.blocks .lock = true)
    (change : String × IdleStage) : (idleChange env d change).1 = d := by
  obtain ⟨seatId, stage⟩ := change
  cases stage with
  | active => rfl
  | dimmed => rfl
  | lockRequested =>
      simp only [idleChange]
      rcases idleLock_shows d env seatId with heq | ⟨sessionId, locks, hlock, heq⟩
      · rw [heq]
      · rw [(LockManager.lock_eq_ok_iff.1 hlock).1.2] at h
        cases h
  | suspendRequested => exact idleSuspend_blocked h

/-- So every call of the backend sees the sessions and the locks as they were. -/
theorem backendSuspend_blocked (h : d.locks.inhibitors.blocks .lock = true)
    (changes : List (String × IdleStage))
    (hmem : Effect.backendSuspend sessions locks ∈ (forEach (idleChange env) d changes).2) :
    sessions = d.sessions ∧ locks = d.locks := by
  induction changes with
  | nil => simp at hmem
  | cons change rest ih =>
      rw [forEach_cons, idleChange_blocked h] at hmem
      rcases List.mem_append.1 hmem with hmem | hmem
      · by_cases hstage : change.2 = .suspendRequested
        · have hsuspend : idleChange env d change = d.idleSuspend env := by
            simp only [idleChange, hstage]
          rw [hsuspend] at hmem
          obtain ⟨-, hsessions, hlocks⟩ := backendSuspend_mem_idleSuspend hmem
          rw [idleSuspend_blocked h] at hlocks
          exact ⟨hsessions, hlocks⟩
        · exact absurd hmem (backendSuspend_notMem_idleChange hstage)
      · exact ih hmem

/-! ## Without -/

/-- What the loop of the tick needs to lock every session before the machine sleeps. -/
structure Locking (d : Daemon) : Prop where
  enabled : d.settings.lock.enabled = true
  lockOnSuspend : d.settings.lock.lockOnSuspend = true
  unblocked : d.locks.inhibitors.blocks .lock = false
  ctx_id : ∀ id ctx, d.sessions.sessions.lookup id = some ctx → ctx.id = id

theorem Locking.suspend (h : Locking d) :
    Locking (d.idleSuspend env).1 ∧ ∀ sessions locks,
      Effect.backendSuspend sessions locks ∈ (d.idleSuspend env).2 →
        AllLocked env.shadow sessions locks := by
  have hinhibitors : (d.idleSuspend env).1.locks.inhibitors = d.locks.inhibitors := by
    simp only [idleSuspend, MitosSession.suspend]
    split
    · rfl
    · exact (forEach_suspendSession _ _ _ _).1
  refine ⟨⟨h.enabled, h.lockOnSuspend, by rw [hinhibitors]; exact h.unblocked, h.ctx_id⟩, ?_⟩
  intro sessions locks hmem s ctx hctx _
  obtain ⟨hblocks, rfl, rfl⟩ := backendSuspend_mem_idleSuspend hmem
  refine (suspend_isLocked ..).2 (Or.inr ⟨hblocks, ?_, ?_⟩)
  · simp [locksOnSuspend, LockPolicy.from, h.enabled, h.lockOnSuspend, h.unblocked]
  · refine List.mem_map.2 ⟨ctx, Table.mem_values.2 ⟨s, hctx⟩, h.ctx_id s ctx hctx⟩

/-- The other stages leave settings and inhibitors alone, and sessions under their ids. -/
theorem Locking.idleLock (h : Locking d) (seatId : String) :
    Locking (d.idleLock env seatId).1 := by
  have hshown : ∀ k locks, d.locks.lock k (LockPolicy.from d.settings.lock) = .ok locks →
      Locking ({ d with locks }.showLock k .idle).1 := by
    intro k locks hlock
    have hrecords : ∀ id ctx, ({ d with locks }.showLock k .idle).1.sessions.sessions.lookup id
        = some ctx → ctx.id = id := by
      intro id ctx hctx
      have hevolves : Evolves none { d with locks } _ ({ d with locks }.showLock k .idle).1 :=
        showLock_evolves k .idle
      obtain ⟨ctx₀, hctx₀, hevolved⟩ := hevolves.2 id ctx hctx
      exact (congrArg Session.id hevolved.session).trans (h.ctx_id id ctx₀ hctx₀)
    have hframe := (LockManager.lock_frame hlock).1
    obtain ⟨sessions, hshow⟩ := showLock_writes { d with locks } k .idle
    refine ⟨?_, ?_, ?_, hrecords⟩
    · rw [hshow]
      exact h.enabled
    · rw [hshow]
      exact h.lockOnSuspend
    · rw [hshow]
      exact (congrArg (·.blocks .lock) hframe).trans h.unblocked
  rcases idleLock_shows d env seatId with heq | ⟨sessionId, locks, hlock, heq⟩
  · rw [heq]
    exact h
  · rw [heq]
    exact hshown sessionId locks hlock

/-- The output of a loop whose backend calls all find every session locked. -/
def SleepsLocked (shadow : Option String) (_ : Daemon) (effects : List Effect) (_ : Daemon) :
    Prop :=
  ∀ sessions locks, Effect.backendSuspend sessions locks ∈ effects →
    AllLocked shadow sessions locks

theorem sleepsLocked_seqClosed (shadow : Option String) : SeqClosed (SleepsLocked shadow) where
  refl := fun _ _ _ hmem => by simp at hmem
  trans := by
    intro d d' d'' effects effects' h h' sessions locks hmem
    rcases List.mem_append.1 hmem with hmem | hmem
    · exact h sessions locks hmem
    · exact h' sessions locks hmem

theorem Locking.changes (h : Locking d) (changes : List (String × IdleStage)) :
    SleepsLocked env.shadow d (forEach (idleChange env) d changes).2
      (forEach (idleChange env) d changes).1 := by
  refine ((sleepsLocked_seqClosed env.shadow).loop_of_invariant (I := Locking) (idleChange env)
    changes (fun d hd change _ => ?_) d h).2
  by_cases hstage : change.2 = .suspendRequested
  · have hsuspend : idleChange env d change = d.idleSuspend env := by
      simp only [idleChange, hstage]
    rw [hsuspend]
    exact hd.suspend
  · refine ⟨?_, fun sessions locks hmem =>
      absurd hmem (backendSuspend_notMem_idleChange hstage)⟩
    obtain ⟨seatId, stage⟩ := change
    cases stage with
    | active => exact hd
    | dimmed => exact hd
    | lockRequested => exact hd.idleLock seatId
    | suspendRequested => exact absurd rfl hstage

/-! ## Both ways into `power::suspend` -/

/-- The event can reach `power::suspend`. -/
def MaySuspend (event : DaemonEvent) : Prop :=
  event = .idleTick ∨ ∃ cmd, event = .ipc (.command cmd) ∧ cmd.request = .suspend

/-- A request to suspend is open to everyone, and does what the idle tick does. -/
theorem handle_suspend (d : Daemon) (env : Env) {cmd : ManagerCommand}
    (hrequest : cmd.request = .suspend) :
    ∃ response, d.handle env (.ipc (.command cmd)) = ((d.idleSuspend env).1,
      (d.idleSuspend env).2 ++ [d.registry.sendResponse cmd.connId response]) := by
  refine ⟨unitResponse (MitosSession.suspend d.sessions d.locks (LockPolicy.from d.settings.lock)
    d.registry (env.power d.powerBackend .suspend)
    (Duration.fromSecs d.settings.power.suspendInhibitGraceSecs)).2.2, ?_⟩
  rw [handle_authorized (authorize_open (by rw [hrequest]; rfl))]
  simp only [dispatch, hrequest]
  rfl

/-- Either way the backend is called from the loop over stage changes; a request is a loop of one
    round. -/
theorem handle_maySuspend (d : Daemon) (env : Env) {event : DaemonEvent} (h : MaySuspend event) :
    ∃ d₀ changes, d₀.sessions = d.sessions ∧ d₀.locks = d.locks ∧ d₀.settings = d.settings
      ∧ ∀ sessions locks, Effect.backendSuspend sessions locks ∈ (d.handle env event).2 ↔
        Effect.backendSuspend sessions locks ∈ (forEach (idleChange env) d₀ changes).2 := by
  rcases h with rfl | ⟨cmd, rfl, hrequest⟩
  · refine ⟨{ d with idle := (d.idle.tick env.now (IdlePolicy.from d.settings.idle)).1 },
      (d.idle.tick env.now (IdlePolicy.from d.settings.idle)).2, rfl, rfl, rfl, ?_⟩
    intro sessions locks
    simp only [handle, onIdleTick, List.mem_append]
    exact or_iff_left (backendSuspend_notMem_sweep env.now)
  · refine ⟨d, [("", .suspendRequested)], rfl, rfl, rfl, fun sessions locks => ?_⟩
    obtain ⟨response, hhandle⟩ := handle_suspend d env hrequest
    rw [hhandle, forEach_cons]
    simp [ConnRegistry.sendResponse, idleChange]

/-- **The machine sleeps locked exactly unless the lock screen is blocked.** In a reachable daemon
    with locking and `lock_on_suspend` configured, take a `Suspend` request or an idle tick that
    calls the backend. Every session whose user has a password is locked at every such call, if
    and only if no `Block` inhibitor on the lock screen is held or all of them were locked
    before. -/
theorem sleeps_locked_iff {event : DaemonEvent} (hreach : Reachable d)
    (henabled : d.settings.lock.enabled = true)
    (hsuspend : d.settings.lock.lockOnSuspend = true) (hevent : MaySuspend event)
    (hcalls : ∃ sessions locks, Effect.backendSuspend sessions locks ∈ (d.handle env event).2) :
    (∀ sessions locks, Effect.backendSuspend sessions locks ∈ (d.handle env event).2 →
        AllLocked env.shadow sessions locks) ↔
      d.locks.inhibitors.blocks .lock = false ∨ AllLocked env.shadow d.sessions d.locks := by
  obtain ⟨d₀, changes, hsessions, hlocks, hsettings, hmem⟩ :=
    handle_maySuspend d env hevent
  simp only [hmem] at hcalls ⊢
  cases hblocks : d.locks.inhibitors.blocks .lock with
  | true =>
      have hblocks₀ : d₀.locks.inhibitors.blocks .lock = true := by
        rw [hlocks]
        exact hblocks
      simp only [Bool.true_eq_false, false_or]
      constructor
      · intro h
        obtain ⟨sessions, locks, hcall⟩ := hcalls
        obtain ⟨rfl, rfl⟩ := backendSuspend_blocked hblocks₀ changes hcall
        rw [← hsessions, ← hlocks]
        exact h _ _ hcall
      · intro h sessions locks hcall
        obtain ⟨rfl, rfl⟩ := backendSuspend_blocked hblocks₀ changes hcall
        rw [hsessions, hlocks]
        exact h
  | false =>
      simp only [true_or, iff_true]
      have hlocking : Locking d₀ := by
        refine ⟨?_, ?_, ?_, ?_⟩
        · rw [hsettings]
          exact henabled
        · rw [hsettings]
          exact hsuspend
        · rw [hlocks]
          exact hblocks
        · rw [hsessions]
          exact fun id ctx hctx => hreach.ctx_id hctx
      exact hlocking.changes changes

section Example

/-- Without an inhibitor, a `Suspend` request locks Alice's session before the machine sleeps. -/
theorem sleeps_locked_unblocked :
    (∃ sessions locks, Effect.backendSuspend sessions locks
      ∈ (demoActive.handle (demoEnv 1) (.ipc (.command (demoCommand 7 1000 .suspend)))).2)
      ∧ ∀ sessions locks, Effect.backendSuspend sessions locks
        ∈ (demoActive.handle (demoEnv 1) (.ipc (.command (demoCommand 7 1000 .suspend)))).2 →
          AllLocked none sessions locks := by
  have hcalls : ∃ sessions locks, Effect.backendSuspend sessions locks
      ∈ (demoActive.handle (demoEnv 1) (.ipc (.command (demoCommand 7 1000 .suspend)))).2 :=
    ⟨_, _, List.mem_cons_of_mem _ (List.mem_cons_self ..)⟩
  exact ⟨hcalls, (sleeps_locked_iff demoActive_reachable (by decide) (by decide)
    (Or.inr ⟨_, rfl, rfl⟩) hcalls).2 (Or.inl (by decide))⟩

/-- A video player holds a `Block` inhibitor on the lock screen, as it may from any connection. -/
private def demoInhibited : Daemon :=
  demoActive.replay [(demoEnv 0, .ipc (.command (demoCommand 7 1000
    (.inhibit .lock "mpv" "playing a film" .block))))]

/-- Then the machine goes to sleep with Alice's session unlocked. -/
theorem sleeps_unlocked_when_inhibited :
    Reachable demoInhibited ∧ demoInhibited.settings.lock.enabled = true
      ∧ demoInhibited.settings.lock.lockOnSuspend = true
      ∧ ∃ sessions locks, Effect.backendSuspend sessions locks
          ∈ (demoInhibited.handle (demoEnv 1) (.ipc (.command (demoCommand 7 1000 .suspend)))).2
        ∧ (sessions.sessions.lookup 1).map (fun ctx => userHasPassword none ctx.session.userName)
          = some true
        ∧ locks.isLocked 1 = false :=
  ⟨demoActive_reachable.replay _, by decide, by decide, _, _,
    List.mem_cons_of_mem _ (List.mem_cons_self ..), by decide, by decide⟩

end Example

end Daemon

end MitosSession
