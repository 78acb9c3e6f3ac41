import MitosSession.Daemon.Handled

set_option autoImplicit false

/-! # What does not depend on elevation

Only the two elevation commands read the elevation manager; terminations, disconnections, the idle
tick and a reload write to it. Two daemons that differ in their elevation managers at most
(`ExceptElevation`) therefore still do after any other event, and one elevation command more or
less makes no other difference. -/

namespace MitosSession

/-- `RequestElevation` and `RespondElevation`. -/
def Request.isElevation : Request → Bool
  | .requestElevation _ _ | .respondElevation _ _ => true
  | _ => false

namespace Daemon

variable {d d' t : Daemon} {env : Env} {event : DaemonEvent}

/-- The two daemons differ at most in their elevation managers. -/
def ExceptElevation (d t : Daemon) : Prop :=
  t = { d with elevation := t.elevation }

theorem exceptElevation_iff : ExceptElevation d t ↔ ∃ e, t = { d with elevation := e } := by
  constructor
  · exact fun h => ⟨t.elevation, h⟩
  · rintro ⟨e, rfl⟩
    exact rfl

/-! ## Handlers -/

section

variable (e : ElevationManager)

theorem trySpawnCompositor_elsewhere (spawned : Result Pid) (k : SessionId) :
    (trySpawnCompositor { d with elevation := e } spawned k).1
      = { (d.trySpawnCompositor spawned k).1 with elevation := e } := by
  unfold trySpawnCompositor
  dsimp only
  cases d.sessions.get k with
  | error _ => rfl
  | ok _ =>
      cases spawned with
      | error _ => rfl
      | ok _ => rfl

theorem createSession_elsewhere (env : Env) (userName : String)
    (seatId sessionType : Option String) :
    (createSession { d with elevation := e } env userName seatId sessionType).daemon
      = { (d.createSession env userName seatId sessionType).daemon with elevation := e } := by
  unfold createSession
  cases env.userByName userName with
  | error _ => rfl
  | ok user =>
      dsimp only
      generalize (if sessionType = some "x11" then SessionType.x11
        else if sessionType = some "tty" then SessionType.tty
        else (SessionPolicy.from d.settings.session).defaultSessionType) = kind
      generalize d.sessions.createSession (env.prepared user) env.systemTime user
        (seatId.getD d.settings.seat.defaultSeat) kind d.settings.session = created
      obtain ⟨sessions, _ | id⟩ := created
      · rfl
      · dsimp only
        split
        · exact trySpawnCompositor_elsewhere
            (d := { d with sessions, seats := d.seats.attachSession _ id }) e env.spawned id
        · rfl

theorem registerCompositor_elsewhere (connId : ConnId) (k : SessionId) :
    (registerCompositor { d with elevation := e } connId k).daemon
      = { (d.registerCompositor connId k).daemon with elevation := e } := by
  unfold registerCompositor
  dsimp only
  cases d.sessions.get k with
  | error _ => rfl
  | ok _ => cases d.locks.isLocked k <;> rfl

theorem switchSession_elsewhere (seatId : String) (k : SessionId) :
    (switchSession { d with elevation := e } seatId k).daemon
      = { (d.switchSession seatId k).daemon with elevation := e } := by
  unfold switchSession
  dsimp only
  cases d.seats.switchActive seatId k <;> rfl

theorem showLock_elsewhere (k : SessionId) (reason : LockReason) :
    (showLock { d with elevation := e } k reason).1
      = { (d.showLock k reason).1 with elevation := e } := by
  unfold showLock
  dsimp only
  cases d.sessions.get k <;> rfl

theorem lockSession_elsewhere (env : Env) (k : SessionId) (reason : LockReason) :
    (lockSession { d with elevation := e } env k reason).daemon
      = { (d.lockSession env k reason).daemon with elevation := e } := by
  have hcan : cannotUnlock { d with elevation := e } env k = d.cannotUnlock env k := rfl
  unfold lockSession
  rw [hcan]
  dsimp only
  cases d.cannotUnlock env k with
  | true => rfl
  | false =>
      cases d.locks.lock k (LockPolicy.from d.settings.lock) with
      | error _ => rfl
      | ok locks => exact showLock_elsewhere (d := { d with locks }) e k reason

theorem unlock_elsewhere (env : Env) (k : SessionId) (userName password : String) :
    (unlock { d with elevation := e } env k userName password).daemon
      = { (d.unlock env k userName password).daemon with elevation := e } := by
  unfold unlock
  dsimp only
  split
  · rfl
  · rfl

theorem idleLock_elsewhere (env : Env) (seatId : String) :
    (idleLock { d with elevation := e } env seatId).1
      = { (d.idleLock env seatId).1 with elevation := e } := by
  have hcan : ∀ k, cannotUnlock { d with elevation := e } env k = d.cannotUnlock env k :=
    fun _ => rfl
  unfold idleLock
  simp only [hcan]
  cases (LockPolicy.from d.settings.lock).lockOnIdle with
  | false => rfl
  | true =>
      cases d.seats.activeSession seatId with
      | error _ => rfl
      | ok active =>
          cases active with
          | none => rfl
          | some k =>
              dsimp only
              cases d.cannotUnlock env k with
              | true => rfl
              | false =>
                  cases d.locks.lock k (LockPolicy.from d.settings.lock) with
                  | error _ => rfl
                  | ok locks => exact showLock_elsewhere (d := { d with locks }) e k .idle

theorem idleChange_elsewhere (env : Env) (change : String × IdleStage) :
    (idleChange env { d with elevation := e } change).1
      = { (idleChange env d change).1 with elevation := e } := by
  obtain ⟨seatId, stage⟩ := change
  cases stage with
  | active => rfl
  | dimmed => rfl
  | suspendRequested => rfl
  | lockRequested => exact idleLock_elsewhere e env seatId

theorem handleCompositorExit_elsewhere (child : ReapedChild) :
    (handleCompositorExit { d with elevation := e } child).1
      = { (d.handleCompositorExit child).1 with elevation := e } := by
  unfold handleCompositorExit
  dsimp only
  cases d.sessions.sessions.entries.find? fun e => e.2.compositorProcess = some child.pid with
  | none => rfl
  | some found =>
      dsimp only
      cases decideRestart found.2.compositorRestarts d.settings.session.maxCompositorRestarts with
      | restart =>
          dsimp only
          exact trySpawnCompositor_elsewhere (d := { d with registry := _, sessions := _ }) e
            child.respawned found.2.id
      | fallbackToTerminal =>
          dsimp only
          cases SessionManager.get _ found.2.id with
          | error _ => rfl
          | ok _ => cases child.respawned <;> rfl

end

/-! ## Steps -/

theorem dispatch_exceptElevation (h : ExceptElevation d t) (env : Env) (connId : ConnId)
    {request : Request} (hrequest : request.isElevation = false) :
    ExceptElevation (d.dispatch env connId request).daemon
      (t.dispatch env connId request).daemon := by
  obtain ⟨e, rfl⟩ := exceptElevation_iff.1 h
  rw [exceptElevation_iff]
  cases request with
  | createSession userName seatId sessionType =>
      exact ⟨e, createSession_elsewhere e env userName seatId sessionType⟩
  | terminateSession k =>
      simp only [dispatch, terminateSession]
      -- both managers abandon the prompts of the session, each the ones it has
      cases d.sessions.terminateSession k with
      | error _ => exact ⟨e, rfl⟩
      | ok _ => exact ⟨_, rfl⟩
  | registerCompositor k => exact ⟨e, registerCompositor_elsewhere e connId k⟩
  | listSessions => exact ⟨e, rfl⟩
  | sessionStatus k => exact ⟨e, rfl⟩
  | lockSession k => exact ⟨e, lockSession_elsewhere e env k .manual⟩
  | unlock k userName password => exact ⟨e, unlock_elsewhere e env k userName password⟩
  | reportActivity seatId => exact ⟨e, rfl⟩
  | switchSession seatId k => exact ⟨e, switchSession_elsewhere e seatId k⟩
  | inhibit what who why mode => exact ⟨e, rfl⟩
  | releaseInhibit inhibitId =>
      simp only [dispatch]
      cases d.locks.releaseInhibitor inhibitId with
      | error _ => exact ⟨e, rfl⟩
      | ok _ => exact ⟨e, rfl⟩
  | listInhibitors => exact ⟨e, rfl⟩
  | suspend => exact ⟨e, rfl⟩
  | reboot => exact ⟨e, rfl⟩
  | powerOff => exact ⟨e, rfl⟩
  | requestElevation k action => cases hrequest
  | respondElevation requestId response => cases hrequest

/-- Only the elevation commands ask who may elevate. -/
theorem authorize_exceptElevation {userByName : String → Result User} {peer : PeerCred}
    {connId : ConnId} {request : Request} {sessions : SessionManager}
    (h : request.isElevation = false) (e e' : ElevationManager) :
    authorize userByName peer connId request sessions e
      = authorize userByName peer connId request sessions e' := by
  cases request with
  | requestElevation k action => cases h
  | respondElevation requestId response => cases h
  | _ => rfl

theorem onIdleTick_exceptElevation (h : ExceptElevation d t) (env : Env) :
    ExceptElevation (d.onIdleTick env).1 (t.onIdleTick env).1 := by
  obtain ⟨e, rfl⟩ := exceptElevation_iff.1 h
  have hloop := forEach_related (R := ExceptElevation) (idleChange env) (fun d t change h => ?_)
    (d.idle.tick env.now (IdlePolicy.from d.settings.idle)).2
    (s := { d with idle := (d.idle.tick env.now (IdlePolicy.from d.settings.idle)).1 })
    (t := { d with
      idle := (d.idle.tick env.now (IdlePolicy.from d.settings.idle)).1, elevation := e }) rfl
  · obtain ⟨e', heq⟩ := exceptElevation_iff.1 hloop
    -- what follows the stage changes sweeps the two managers each on its own
    unfold onIdleTick
    dsimp only
    rw [heq]
    exact rfl
  · obtain ⟨e, rfl⟩ := exceptElevation_iff.1 h
    exact exceptElevation_iff.2 ⟨e, idleChange_elsewhere e env change⟩

/-- Every event but an elevation command leaves the daemons alike. -/
theorem handle_exceptElevation (h : ExceptElevation d t) (env : Env) {event : DaemonEvent}
    (hevent : ∀ cmd, event = .ipc (.command cmd) → cmd.request.isElevation = false) :
    ExceptElevation (d.handle env event).1 (t.handle env event).1 := by
  match event with
  | .ipc (.connected connId peer outbox) =>
      obtain ⟨e, rfl⟩ := exceptElevation_iff.1 h
      exact rfl
  | .ipc (.disconnected connId) =>
      obtain ⟨e, rfl⟩ := exceptElevation_iff.1 h
      exact rfl
  | .ipc (.command cmd) =>
      have hrequest := hevent cmd rfl
      -- the same requests are authorized, so neither daemon acts where the other refuses
      have hsame : authorize env.userByName cmd.peer cmd.connId cmd.request t.sessions t.elevation
          = authorize env.userByName cmd.peer cmd.connId cmd.request d.sessions d.elevation := by
        obtain ⟨e, rfl⟩ := exceptElevation_iff.1 h
        exact authorize_exceptElevation hrequest e d.elevation
      cases hauth : authorize env.userByName cmd.peer cmd.connId cmd.request d.sessions
        d.elevation with
      | error e =>
          rw [handle_rejected hauth, handle_rejected (hsame.trans hauth)]
          exact h
      | ok u =>
          rw [handle_authorized hauth, handle_authorized (hsame.trans hauth)]
          exact dispatch_exceptElevation h env cmd.connId hrequest
  | .idleTick => exact onIdleTick_exceptElevation h env
  | .signal .terminate =>
      obtain ⟨e, rfl⟩ := exceptElevation_iff.1 h
      exact rfl
  | .signal .reloadConfig =>
      obtain ⟨e, rfl⟩ := exceptElevation_iff.1 h
      simp only [handle, onSignal, reloadConfig]
      cases load env.config none with
      | error _ => exact rfl
      | ok _ => exact rfl
  | .signal (.reapChildren children) =>
      refine forEach_related handleCompositorExit (fun d t child h => ?_) children h
      obtain ⟨e, rfl⟩ := exceptElevation_iff.1 h
      exact exceptElevation_iff.2 ⟨e, handleCompositorExit_elsewhere e child⟩

/-- An elevation command changes nothing else. -/
theorem handle_elevation_command (d : Daemon) (env : Env) {cmd : ManagerCommand}
    (h : cmd.request.isElevation = true) :
    ∃ e, (d.handle env (.ipc (.command cmd))).1 = { d with elevation := e } := by
  cases hauth : authorize env.userByName cmd.peer cmd.connId cmd.request d.sessions
    d.elevation with
  | error e =>
      rw [handle_rejected hauth]
      exact ⟨d.elevation, rfl⟩
  | ok u =>
      rw [handle_authorized hauth]
      cases hrequest : cmd.request with
      | requestElevation k action => exact startElevation_writes d env cmd.connId k action
      | respondElevation requestId response =>
          exact respondElevation_writes d env requestId response
      | _ =>
          rw [hrequest] at h
          cases h

theorem rehash_exceptElevation (h : ExceptElevation d t) (hr : Rehash d d') :
    ∃ t', Rehash t t' ∧ ExceptElevation d' t' := by
  obtain ⟨e, rfl⟩ := exceptElevation_iff.1 h
  exact ⟨{ d' with elevation := e },
    { hr with
      elevation := ⟨List.Perm.refl _, rfl, List.Perm.refl _, List.Perm.refl _, List.Perm.refl _,
        rfl⟩ }, rfl⟩

end Daemon

end MitosSession
