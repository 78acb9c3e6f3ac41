import MitosSession.Daemon.Engage

set_option autoImplicit false

/-! # What an event does to the two managers

The lock manager and the elevation manager are written to by few handlers, each through one of
their operations. `LocksTo` and `Elevates` list these, one constructor for each way an event can
move the manager, so that what holds of the managers' records along the runs of the daemon is
proved operation by operation. -/

namespace MitosSession

namespace LockManager

/-- Locks were engaged, for sessions in `P`, and nothing else changed. -/
structure Engaged (P : SessionId → Prop) (m m' : LockManager) : Prop where
  timeouts : m'.timeouts = m.timeouts
  entry : ∀ s, m'.entry s = m.entry s ∨ (P s ∧ m'.entry s = { m.entry s with state := .locked })

section

variable {P : SessionId → Prop} {m m' m'' : LockManager}

theorem Engaged.refl (P : SessionId → Prop) (m : LockManager) : Engaged P m m :=
  ⟨rfl, fun _ => Or.inl rfl⟩

theorem Engaged.trans (h : Engaged P m m') (h' : Engaged P m' m'') : Engaged P m m'' := by
  refine ⟨h'.timeouts.trans h.timeouts, fun s => ?_⟩
  rcases h'.entry s with hsame | ⟨hP, hlocked⟩
  · rw [hsame]
    exact h.entry s
  · refine Or.inr ⟨hP, ?_⟩
    rw [hlocked]
    rcases h.entry s with heq | ⟨-, heq⟩
    · rw [heq]
    · rw [heq]

theorem lock_engaged {k : SessionId} {policy : LockPolicy} (hP : P k)
    (h : m.lock k policy = .ok m') : Engaged P m m' := by
  refine ⟨(lock_frame h).2, fun s => ?_⟩
  rw [lock_entry h]
  by_cases hs : s = k
  · subst hs
    rw [if_pos rfl]
    exact Or.inr ⟨hP, rfl⟩
  · rw [if_neg hs]
    exact Or.inl rfl

end

end LockManager

/-- The loop of `power::suspend` engages locks of the sessions it visits. -/
theorem forEach_suspendSession_engaged (lockPolicy : LockPolicy) (registry : ConnRegistry)
    {P : SessionId → Prop} (visited : List SessionContext) (hP : ∀ ctx ∈ visited, P ctx.id)
    (locks : LockManager) :
    LockManager.Engaged P locks
      (forEach (suspendSession lockPolicy registry) locks visited).1 := by
  induction visited generalizing locks with
  | nil => exact LockManager.Engaged.refl P locks
  | cons ctx rest ih =>
      rw [forEach_cons]
      refine LockManager.Engaged.trans ?_ (ih (fun c hc => hP c (List.mem_cons_of_mem _ hc)) _)
      unfold suspendSession
      dsimp only
      split
      · split
        · rename_i locks' hlock
          exact LockManager.lock_engaged (hP ctx (List.mem_cons_self ..)) hlock
        · exact LockManager.Engaged.refl P locks
      · exact LockManager.Engaged.refl P locks

/-- The sessions an automatic lock can reach: those there are, and the active ones of the seats. -/
def Standing.Reaches (self : Standing) (s : SessionId) : Prop :=
  (∃ k session, self.roster k = some session ∧ session.id = s)
    ∨ ∃ seatId, self.seats.activeSession seatId = .ok (some s)

namespace Daemon

variable {d d' : Daemon} {env : Env}

theorem reaches_of_mem_list {ctx : SessionContext} (h : ctx ∈ d.sessions.list) :
    d.standing.Reaches ctx.id := by
  obtain ⟨k, hk⟩ := Table.mem_values.1 h
  exact Or.inl ⟨k, ctx.session, SessionManager.roster_eq_some_iff.2 ⟨ctx, hk, rfl⟩, rfl⟩

theorem idleSuspend_engaged (d : Daemon) (env : Env) :
    LockManager.Engaged d.standing.Reaches d.locks (d.idleSuspend env).1.locks := by
  simp only [idleSuspend, MitosSession.suspend]
  split
  · exact LockManager.Engaged.refl _ _
  · exact forEach_suspendSession_engaged _ _ _ (fun ctx hctx => reaches_of_mem_list hctx) _

theorem idleLock_engaged (d : Daemon) (env : Env) (seatId : String) :
    LockManager.Engaged d.standing.Reaches d.locks (d.idleLock env seatId).1.locks := by
  unfold idleLock
  dsimp only
  split
  · exact LockManager.Engaged.refl _ _
  · split
    · rename_i s hactive
      split
      · exact LockManager.Engaged.refl _ _
      · split
        · rename_i locks hlock
          rw [showLock_locks]
          exact LockManager.lock_engaged (Or.inr ⟨seatId, hactive⟩) hlock
        · exact LockManager.Engaged.refl _ _
    · exact LockManager.Engaged.refl _ _

theorem idleChange_engaged (d : Daemon) (env : Env) (change : String × IdleStage) :
    LockManager.Engaged d.standing.Reaches d.locks (idleChange env d change).1.locks := by
  obtain ⟨seatId, stage⟩ := change
  cases stage with
  | active => exact LockManager.Engaged.refl _ _
  | dimmed => exact LockManager.Engaged.refl _ _
  | lockRequested => exact idleLock_engaged d env seatId
  | suspendRequested => exact idleSuspend_engaged d env

theorem idleChanges_engaged (env : Env) (changes : List (String × IdleStage)) (d : Daemon) :
    LockManager.Engaged d.standing.Reaches d.locks
      (forEach (idleChange env) d changes).1.locks := by
  induction changes generalizing d with
  | nil => exact LockManager.Engaged.refl _ _
  | cons change rest ih =>
      -- which sessions can be reached is the same before every round
      have hrests : Rests d [] (idleChange env d change).1 := idleChange_rests change
      have hrest := ih (idleChange env d change).1
      rw [hrests] at hrest
      rw [forEach_cons]
      exact (idleChange_engaged d env change).trans hrest

/-! ## The idle tick -/

/-- The daemon after the stage changes of a tick, before the sweeps. -/
def staged (self : Daemon) (env : Env) : Daemon :=
  let ticked := self.idle.tick env.now (IdlePolicy.from self.settings.idle)
  (forEach (idleChange env) { self with idle := ticked.1 } ticked.2).1

theorem onIdleTick_eq_sweep (d : Daemon) (env : Env) :
    (d.onIdleTick env).1 = ((d.staged env).sweep env.now).1 :=
  rfl

theorem staged_engaged (d : Daemon) (env : Env) :
    LockManager.Engaged d.standing.Reaches d.locks (d.staged env).locks :=
  idleChanges_engaged env (d.idle.tick env.now (IdlePolicy.from d.settings.idle)).2
    { d with idle := (d.idle.tick env.now (IdlePolicy.from d.settings.idle)).1 }

theorem staged_elevation (d : Daemon) (env : Env) : (d.staged env).elevation = d.elevation := by
  unfold staged
  dsimp only
  generalize (d.idle.tick env.now (IdlePolicy.from d.settings.idle)).2 = changes
  generalize hd : { d with idle := (d.idle.tick env.now (IdlePolicy.from d.settings.idle)).1 } = d₁
  have hsame : d₁.elevation = d.elevation := by rw [← hd]
  rw [← hsame]
  clear hd hsame
  induction changes generalizing d₁ with
  | nil => rfl
  | cons change rest ih =>
      rw [forEach_cons]
      exact (ih _).trans (idleChange_elevation change)

theorem onIdleTick_elevation (d : Daemon) (env : Env) :
    (d.onIdleTick env).1.elevation
      = ((d.elevation.clearExpiredLockouts env.now).expirePending env.now).1 := by
  rw [onIdleTick_eq_sweep, sweep, staged_elevation]

/-! ## The lock manager -/

/-- Every way an event can move the lock manager. -/
inductive LocksTo (d : Daemon) (env : Env) : DaemonEvent → LockManager → Prop
  /-- Only the inhibitors, if anything. -/
  | same (event : DaemonEvent) (hevent : event ≠ .idleTick) {locks : LockManager}
      (hlocks : locks.locks = d.locks.locks) (htimeouts : locks.timeouts = d.locks.timeouts) :
      LocksTo d env event locks
  | locked (cmd : ManagerCommand) {id : SessionId} {locks : LockManager}
      (hauth : authorize env.userByName cmd.peer cmd.connId cmd.request d.sessions d.elevation
        = .ok ())
      (hrequest : cmd.request = .lockSession id)
      (hlock : d.locks.lock id (LockPolicy.from d.settings.lock) = .ok locks) :
      LocksTo d env (.ipc (.command cmd)) locks
  | attempted (cmd : ManagerCommand) {id : SessionId} {userName password : String}
      (hauth : authorize env.userByName cmd.peer cmd.connId cmd.request d.sessions d.elevation
        = .ok ())
      (hrequest : cmd.request = .unlock id userName password) :
      LocksTo d env (.ipc (.command cmd)) (d.unlockAttempt env id userName password).manager
  | suspended (cmd : ManagerCommand) (hrequest : cmd.request = .suspend) :
      LocksTo d env (.ipc (.command cmd)) (d.idleSuspend env).1.locks
  | ticked : LocksTo d env .idleTick ((d.staged env).locks.sweepLockouts env.now)

theorem handleCommand_locksTo (d : Daemon) (env : Env) (cmd : ManagerCommand) :
    LocksTo d env (.ipc (.command cmd)) (d.handleCommand env cmd).1.locks := by
  have hsame : ∀ {d' : Daemon}, d'.locks = d.locks →
      LocksTo d env (.ipc (.command cmd)) d'.locks := fun h =>
    LocksTo.same _ (by simp) (by rw [h]) (by rw [h])
  unfold handleCommand
  split
  · exact hsame rfl
  · rename_i hauth
    dsimp only
    cases hrequest : cmd.request with
    | lockSession id =>
        simp only [dispatch]
        -- `lock` refused, or the session was shown its lock
        rcases lockSession_cases d env id .manual with ⟨text, heq⟩ | ⟨locks, hlock, heq⟩
        · rw [heq]
          exact hsame rfl
        · rw [heq, showLock_locks]
          exact LocksTo.locked cmd hauth hrequest hlock
    | unlock id userName password =>
        simp only [dispatch, unlock_locks]
        exact LocksTo.attempted cmd hauth hrequest
    | inhibit what who why mode => exact LocksTo.same _ (by simp) rfl rfl
    | releaseInhibit inhibitId =>
        simp only [dispatch]
        split
        · rename_i locks hrelease
          rw [LockManager.releaseInhibitor_eq hrelease]
          exact LocksTo.same _ (by simp) rfl rfl
        · exact hsame rfl
    | suspend => exact LocksTo.suspended cmd hrequest
    | _ => exact hsame (dispatch_locks cmd.connId rfl)

/-- **Inversion of the event loop**, for the lock manager. -/
theorem handle_locksTo (d : Daemon) (env : Env) (event : DaemonEvent) :
    LocksTo d env event (d.handle env event).1.locks := by
  cases event with
  | ipc message =>
      cases message with
      | connected connId peer outbox => exact LocksTo.same _ (by simp) rfl rfl
      | disconnected connId => exact LocksTo.same _ (by simp) rfl rfl
      | command cmd => exact handleCommand_locksTo d env cmd
  | idleTick => exact LocksTo.ticked
  | signal signal =>
      cases signal with
      | terminate => exact LocksTo.same _ (by simp) rfl rfl
      | reloadConfig =>
          simp only [handle, onSignal, reloadConfig]
          split <;> exact LocksTo.same _ (by simp) rfl rfl
      | reapChildren children =>
          have hsame := reapChildren_locks children d
          exact LocksTo.same _ (by simp) (congrArg LockManager.locks hsame)
            (congrArg LockManager.timeouts hsame)

/-! ## The elevation manager -/

/-- Every way an event can move the elevation manager. -/
inductive Elevates (d : Daemon) (env : Env) : DaemonEvent → ElevationManager → Prop
  | same (event : DaemonEvent) (hevent : event ≠ .idleTick) : Elevates d env event d.elevation
  | begun (cmd : ManagerCommand) {id : SessionId} {action : ElevationAction}
      {ctx : SessionContext} {conn : ConnId} {elevation : ElevationManager}
      {requestId : ElevationRequestId}
      (hrequest : cmd.request = .requestElevation id action)
      (hctx : d.sessions.sessions.lookup id = some ctx)
      (hbegin : d.elevation.begin id conn cmd.connId (ElevationPolicy.from d.settings.elevation)
        (elevationAuthPolicy d.settings.elevation) env.now = .ok (elevation, requestId)) :
      Elevates d env (.ipc (.command cmd)) elevation
  | cancelled (cmd : ManagerCommand) {requestId : ElevationRequestId}
      (hrequest : cmd.request = .respondElevation requestId .cancelled) :
      Elevates d env (.ipc (.command cmd)) (d.elevation.close requestId)
  | attempted (cmd : ManagerCommand) {requestId : ElevationRequestId} {password : String}
      {p : PendingElevation} {ctx : SessionContext} {attempt : ElevationAttempt}
      (hauth : authorize env.userByName cmd.peer cmd.connId cmd.request d.sessions d.elevation
        = .ok ())
      (hrequest : cmd.request = .respondElevation requestId (.password password))
      (hp : d.elevation.pending.lookup requestId = some p)
      (hctx : d.sessions.sessions.lookup p.sessionId = some ctx)
      (hattempt : d.elevation.attempt requestId (d.authenticator.authenticate env.pam)
        { sessionId := p.sessionId, userName := ctx.session.userName, password }
        (elevationAuthPolicy d.settings.elevation) env.now = some attempt)
      (hresponse : (d.respondElevation env requestId (.password password)).response
        = some (.authResult attempt.resolved.outcome)) :
      Elevates d env (.ipc (.command cmd)) attempt.manager
  | abandoned (event : DaemonEvent) (hevent : event ≠ .idleTick)
      (predicate : PendingElevation → Bool) :
      Elevates d env event (d.elevation.abandonWhere predicate).1
  | ticked :
      Elevates d env .idleTick
        ((d.elevation.clearExpiredLockouts env.now).expirePending env.now).1
  | reloaded (uid : Option ℕ) :
      Elevates d env (.signal .reloadConfig) (d.elevation.setRequesterUid uid)

theorem handleCommand_elevates (d : Daemon) (env : Env) (cmd : ManagerCommand) :
    Elevates d env (.ipc (.command cmd)) (d.handleCommand env cmd).1.elevation := by
  have hsame : ∀ {d' : Daemon}, d'.elevation = d.elevation →
      Elevates d env (.ipc (.command cmd)) d'.elevation := by
    intro d' h
    rw [h]
    exact Elevates.same _ (by simp)
  unfold handleCommand
  split
  · exact hsame rfl
  · rename_i hauth
    dsimp only
    cases hrequest : cmd.request with
    | terminateSession id =>
        simp only [dispatch]
        rcases terminateSession_cases d id with ⟨e, -, heq⟩ | ⟨ctx, -, heq⟩
        · rw [heq]
          exact hsame rfl
        · rw [heq]
          exact Elevates.abandoned _ (by simp) _
    | requestElevation id action =>
        simp only [dispatch]
        rcases startElevation_cases d env cmd.connId id action with
          ⟨response, -, heq⟩ | ⟨ctx, conn, begun, hctx, -, hbegin, heq⟩
        · rw [heq]
          exact hsame rfl
        · rw [heq]
          exact Elevates.begun cmd hrequest hctx hbegin
    | respondElevation requestId response =>
        simp only [dispatch]
        rcases respondElevation_cases d env requestId response with
          ⟨e, heq⟩ | ⟨p, hp, ⟨hcancelled, heq⟩ | ⟨password, ctx, attempt, rfl, hctx, hattempt, heq⟩⟩
        · rw [heq]
          exact hsame rfl
        · rw [heq]
          exact Elevates.cancelled cmd (hcancelled ▸ hrequest)
        -- the reply carries the outcome, from which later proofs read off a lockout
        · have hresponse := congrArg Reply.response heq
          rw [heq]
          exact Elevates.attempted cmd (hrequest ▸ hauth) hrequest hp hctx hattempt hresponse
    | _ => exact hsame (dispatch_elevation cmd.connId rfl)

theorem reapChildren_elevation (children : List ReapedChild) (d : Daemon) :
    (d.reapChildren children).1.elevation = d.elevation := by
  unfold reapChildren
  induction children generalizing d with
  | nil => rfl
  | cons child rest ih =>
      rw [forEach_cons]
      exact (ih _).trans (handleCompositorExit_elevation child)

/-- **Inversion of the event loop**, for the elevation manager. -/
theorem handle_elevates (d : Daemon) (env : Env) (event : DaemonEvent) :
    Elevates d env event (d.handle env event).1.elevation := by
  cases event with
  | ipc message =>
      cases message with
      | connected connId peer outbox => exact Elevates.same _ (by simp)
      | disconnected connId => exact Elevates.abandoned _ (by simp) _
      | command cmd => exact handleCommand_elevates d env cmd
  | idleTick =>
      have hticked : (d.handle env .idleTick).1.elevation = _ := onIdleTick_elevation d env
      rw [hticked]
      exact Elevates.ticked
  | signal signal =>
      cases signal with
      | terminate => exact Elevates.same _ (by simp)
      | reloadConfig =>
          simp only [handle, onSignal, reloadConfig]
          split
          · exact Elevates.same _ (by simp)
          · exact Elevates.reloaded _
      | reapChildren children =>
          have hsame : (d.handle env (.signal (.reapChildren children))).1.elevation = _ :=
            reapChildren_elevation children d
          rw [hsame]
          exact Elevates.same _ (by simp)

end Daemon

end MitosSession
