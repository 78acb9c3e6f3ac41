import MitosSession.Seat
import MitosSession.Idle
import MitosSession.Power

set_option autoImplicit false

/-! # The daemon

`main.rs`: everything the daemon owns, and the handlers its event loop runs. Each handler is a
function from the daemon to the daemon afterwards and the effects it had, in order. `Env` is what
one handler reads from the system around it; nothing in it is kept between two handlers.

Audit and trace logging are left out. -/

namespace MitosSession

/-- The system as one handler sees it. -/
structure Env where
  /-- `Instant::now()`. -/
  now : Instant
  /-- `SystemTime::now()`. -/
  systemTime : ℕ
  /-- `User::by_name`. -/
  userByName : String → Result User
  /-- `/etc/shadow`, if it can be read. -/
  shadow : Option String
  /-- Whether `ensure_home_ready` and `ensure_runtime_dir` succeed for a user. -/
  prepared : User → Result Unit
  /-- What spawning a child yields. -/
  spawned : Result Pid
  pam : PamStack
  power : PowerBackend → PowerCall → Result Unit
  config : ConfigFiles

/-- `Daemon`. -/
structure Daemon where
  settings : Settings
  sessions : SessionManager := {}
  seats : SeatManager := {}
  locks : LockManager := {}
  idle : IdleDetector := {}
  registry : ConnRegistry := {}
  authenticator : PamAuthenticator
  elevation : ElevationManager := {}
  powerBackend : PowerBackend
  socketPath : String
  shouldExit : Bool := false

/-- What a request handler leaves behind; `response` is `none` for a reply that comes later. -/
structure Reply where
  daemon : Daemon
  effects : List Effect
  response : Option Response

/-- `session_info`. -/
def sessionInfo (ctx : SessionContext) : SessionInfo :=
  { id := ctx.session.id
    uid := ctx.session.uid
    userName := ctx.session.userName
    seatId := ctx.session.seatId
    sessionType := ctx.session.sessionType
    state := ctx.state.debug
    locked := ctx.state.isLocked
    createdAt := ctx.session.createdAt }

/-- The entry of `ListInhibitors` for an inhibitor. -/
def inhibitorInfo (i : Inhibitor) : InhibitorInfo :=
  { id := i.id, what := i.what, who := i.who, why := i.why, mode := i.mode }

/-- `Ok(()) => Response::Ok, Err(e) => Response::Error(e.to_string())`. -/
def unitResponse : Result Unit → Response
  | .ok () => .ok
  | .error e => .error e.display

/-- `resolve_elevation_requester`. -/
def resolveElevationRequester (env : Env) (settings : ElevationSettings) : Option ℕ :=
  match env.userByName settings.serviceUser with
  | .ok u => some u.uid
  | .error _ => none

namespace Daemon

/-! ## Startup -/

/-- `Daemon::new`. -/
def new (env : Env) (settings : Settings) : Daemon :=
  { settings
    authenticator := PamAuthenticator.new (authPolicy settings.authentication settings.lock)
    elevation := ({} : ElevationManager).setRequesterUid
      (resolveElevationRequester env settings.elevation)
    powerBackend := settings.power.backend.make settings.power.mitosPowerSocketPath
    socketPath := settings.ipc.socketPath }

/-- The startup part of `run`: load the configuration, build the daemon and its default seat.
    `devices` is what udev enumerated, `none` if that failed. -/
def start (env : Env) (configArg : Option String) (devices : Option (List Device)) :
    Result Daemon := do
  let settings ← load env.config configArg
  let daemon := new env settings
  let seats := daemon.seats.ensureSeat settings.seat.defaultSeat fun seat => seat
  let seats :=
    match devices with
    | some devices => seats.setDevices settings.seat.defaultSeat devices
    | none => seats
  return { daemon with seats }

/-! ## Credentials -/

/-- The effects of handing `calls` to the configured authenticator. -/
def authEffects (self : Daemon) (env : Env) (calls : List AuthRequest) : List Effect :=
  calls.map fun request =>
    .authenticate self.authenticator.service request
      ((self.authenticator.authenticate env.pam).accepts request)

/-! ## Sessions and their compositors -/

/-- `Daemon::try_spawn_compositor`. -/
def trySpawnCompositor (self : Daemon) (spawned : Result Pid) (id : SessionId) :
    Daemon × List Effect :=
  match self.sessions.get id with
  | .error _ => (self, [])
  | .ok _ =>
    match spawned with
    | .ok child =>
      ({ self with
          sessions := self.sessions.update id fun ctx =>
            { ctx with compositorProcess := some child } },
        [.spawn id .compositor true])
    | .error _ => (self, [.spawn id .compositor false])

/-- `Daemon::create_session`. -/
def createSession (self : Daemon) (env : Env) (userName : String) (seatId : Option String)
    (sessionType : Option String) : Reply :=
  match env.userByName userName with
  | .error e => { daemon := self, effects := [], response := some (.error e.display) }
  | .ok user =>
    let seatId := seatId.getD self.settings.seat.defaultSeat
    -- any other text means the configured default, `"wayland"` included
    let sessionType :=
      if sessionType = some "x11" then .x11
      else if sessionType = some "tty" then .tty
      else (SessionPolicy.from self.settings.session).defaultSessionType
    let created := self.sessions.createSession (env.prepared user) env.systemTime user seatId
      sessionType self.settings.session
    match created.2 with
    | .error e =>
      -- the id stays spent
      { daemon := { self with sessions := created.1 }
        effects := []
        response := some (.error e.display) }
    | .ok id =>
      let attached :=
        { self with sessions := created.1, seats := self.seats.attachSession seatId id }
      let launched :=
        if sessionType ≠ .tty then attached.trySpawnCompositor env.spawned id else (attached, [])
      { daemon := launched.1
        effects := launched.2
        response := some
          (match launched.1.sessions.get id with
          | .ok ctx => .session (sessionInfo ctx)
          | .error e => .error e.display) }

/-- `Daemon::notify_elevation_abandoned`. -/
def notifyElevationAbandoned (registry : ConnRegistry) (reason : String)
    (abandoned : AbandonedElevation) : List Effect :=
  [registry.sendEvent abandoned.compositorConn (.hideElevationPrompt abandoned.requestId),
    registry.sendResponse abandoned.requesterConn (.authResult (.error reason))]

/-- The `TerminateSession` arm of `dispatch`. -/
def terminateSession (self : Daemon) (sessionId : SessionId) : Reply :=
  match self.sessions.terminateSession sessionId with
  | .error e => { daemon := self, effects := [], response := some (.error e.display) }
  | .ok sessions =>
    let abandoned := self.elevation.abandonSession sessionId
    { daemon :=
        { self with
          sessions
          seats := self.seats.detachSession sessionId
          elevation := abandoned.1 }
      effects := abandoned.2.flatMap (notifyElevationAbandoned self.registry "session ended")
      response := some .ok }

/-- The `RegisterCompositor` arm of `dispatch`. -/
def registerCompositor (self : Daemon) (connId : ConnId) (sessionId : SessionId) : Reply :=
  match self.sessions.get sessionId with
  | .error e => { daemon := self, effects := [], response := some (.error e.display) }
  | .ok _ =>
    let register (next : SessionState) : Daemon :=
      { self with
        sessions := self.sessions.update sessionId fun ctx =>
          { ctx with compositorConn := some connId : SessionContext }.transition next }
    -- the lock manager decides, not the state the session was left in
    if self.locks.isLocked sessionId then
      { daemon := register .locked
        effects := [self.registry.sendEvent connId (.showLockScreen sessionId .manual)]
        response := some .ok }
    else
      { daemon := register .active, effects := [], response := some .ok }

/-- The `SwitchSession` arm of `dispatch`. -/
def switchSession (self : Daemon) (seatId : String) (sessionId : SessionId) : Reply :=
  match self.seats.switchActive seatId sessionId with
  | .error e => { daemon := self, effects := [], response := some (.error e.display) }
  | .ok switched =>
    { daemon := { self with seats := switched.1 }
      effects :=
        match self.sessions.get sessionId with
        | .ok ctx =>
          self.registry.sendEventTo ctx.compositorConn (.sessionActivated seatId sessionId)
        | .error _ => []
      response := some .ok }

/-! ## Locking and unlocking -/

/-- After a lock was engaged: move the session to `Locked` and tell its compositor. -/
def showLock (self : Daemon) (sessionId : SessionId) (reason : LockReason) :
    Daemon × List Effect :=
  match self.sessions.get sessionId with
  | .error _ => (self, [])
  | .ok ctx =>
    ({ self with sessions := self.sessions.update sessionId (·.transition .locked) },
      self.registry.sendEventTo ctx.compositorConn (.showLockScreen sessionId reason))

/-- Whether `sessionId` is a known session whose user has no usable password. -/
def cannotUnlock (self : Daemon) (env : Env) (sessionId : SessionId) : Bool :=
  match self.sessions.get sessionId with
  | .ok ctx => !userHasPassword env.shadow ctx.session.userName
  | .error _ => false

/-- `Daemon::lock_session`. -/
def lockSession (self : Daemon) (env : Env) (sessionId : SessionId) (reason : LockReason) :
    Reply :=
  if self.cannotUnlock env sessionId then
    { daemon := self
      effects := []
      response := some (.error "Lock screen disabled: No password set for this user.") }
  else
    match self.locks.lock sessionId (LockPolicy.from self.settings.lock) with
    | .error e => { daemon := self, effects := [], response := some (.error e.display) }
    | .ok locks =>
      let shown := { self with locks }.showLock sessionId reason
      { daemon := shown.1, effects := shown.2, response := some .ok }

/-- `Daemon::unlock`. The account checked is the one the client names. -/
def unlock (self : Daemon) (env : Env) (sessionId : SessionId) (userName password : String) :
    Reply :=
  let request : AuthRequest := { sessionId, userName, password }
  let attempt := self.locks.attemptUnlock (self.authenticator.authenticate env.pam) request
    (authPolicy self.settings.authentication self.settings.lock) env.now
  let self := { self with locks := attempt.manager }
  let told (event : Event) : List Effect :=
    match self.sessions.get sessionId with
    | .ok ctx => self.registry.sendEventTo ctx.compositorConn event
    | .error _ => []
  if attempt.outcome = .success then
    { daemon :=
        { self with sessions := self.sessions.update sessionId (·.transition .active) }
      effects := self.authEffects env attempt.calls ++ told (.hideLockScreen sessionId)
      response := some (.authResult attempt.outcome) }
  else
    { daemon := self
      effects :=
        self.authEffects env attempt.calls ++ told (.authFeedback sessionId attempt.outcome)
      response := some (.authResult attempt.outcome) }

/-! ## Elevation -/

/-- `Daemon::start_elevation`. -/
def startElevation (self : Daemon) (env : Env) (connId : ConnId) (sessionId : SessionId)
    (action : ElevationAction) : Reply :=
  let reject (response : Response) : Reply :=
    { daemon := self, effects := [], response := some response }
  match action.validate with
  | .error msg => reject (.error msg)
  | .ok () =>
    let elevationPolicy := ElevationPolicy.from self.settings.elevation
    if !elevationPolicy.enabled then
      reject (.error "elevation is disabled in config")
    else
      match self.sessions.get sessionId with
      | .error e => reject (.error e.display)
      | .ok ctx =>
        if !userHasPassword env.shadow ctx.session.userName then
          reject (.authResult (.error "no password is configured for this account"))
        else
          match ctx.compositorConn with
          | none => reject (.error "session has no active display to show the prompt on")
          | some compositorConn =>
            match self.elevation.begin sessionId compositorConn connId elevationPolicy
              (elevationAuthPolicy self.settings.elevation) env.now with
            | .error (.lockedOut secs) => reject (.authResult (.lockedOut secs))
            | .error e => reject (.error e.display)
            | .ok begun =>
              { daemon := { self with elevation := begun.1 }
                effects := [self.registry.sendEvent compositorConn
                  (.showElevationPrompt begun.2 sessionId action)]
                response := none }

/-- The second half of `respond_elevation`: report one attempt to the parties of the prompt. -/
def reportElevation (self : Daemon) (requestId : ElevationRequestId)
    (resolved : ElevationOutcome) : List Effect :=
  self.registry.sendEvent resolved.compositorConn (.elevationFeedback requestId resolved.outcome) ::
    if resolved.terminal then
      [self.registry.sendEvent resolved.compositorConn (.hideElevationPrompt requestId),
        self.registry.sendResponse resolved.requesterConn (.authResult resolved.outcome)]
    else
      []

/-- `Daemon::respond_elevation`. -/
def respondElevation (self : Daemon) (env : Env) (requestId : ElevationRequestId)
    (response : ElevationResponse) : Reply :=
  let reject (e : SessionError) : Reply :=
    { daemon := self, effects := [], response := some (.error e.display) }
  match self.elevation.peek requestId with
  | none => reject (.unknownElevationRequest requestId)
  | some info =>
    match response with
    | .cancelled =>
      match self.elevation.cancel requestId with
      | none => reject (.unknownElevationRequest requestId)
      | some cancelled =>
        { daemon := { self with elevation := cancelled.1 }
          effects := self.reportElevation requestId cancelled.2
          response := some (.authResult cancelled.2.outcome) }
    | .password password =>
      match self.sessions.get info.sessionId with
      | .error e => reject e
      | .ok ctx =>
        -- the account is the session's own, whatever the client knows of it
        let request : AuthRequest :=
          { sessionId := info.sessionId, userName := ctx.session.userName, password }
        match self.elevation.attempt requestId (self.authenticator.authenticate env.pam) request
          (elevationAuthPolicy self.settings.elevation) env.now with
        | none => reject (.unknownElevationRequest requestId)
        | some attempt =>
          { daemon := { self with elevation := attempt.manager }
            effects := self.authEffects env attempt.calls
              ++ self.reportElevation requestId attempt.resolved
            response := some (.authResult attempt.resolved.outcome) }

/-! ## Requests -/

/-- `Daemon::dispatch`. -/
def dispatch (self : Daemon) (env : Env) (connId : ConnId) (request : Request) : Reply :=
  let answer (response : Response) : Reply :=
    { daemon := self, effects := [], response := some response }
  let grace := Duration.fromSecs self.settings.power.suspendInhibitGraceSecs
  match request with
  | .createSession userName seatId sessionType =>
    self.createSession env userName seatId sessionType
  | .terminateSession sessionId => self.terminateSession sessionId
  | .registerCompositor sessionId => self.registerCompositor connId sessionId
  | .listSessions => answer (.sessions (self.sessions.list.map sessionInfo))
  | .sessionStatus sessionId =>
    answer (match self.sessions.get sessionId with
      | .ok ctx => .session (sessionInfo ctx)
      | .error e => .error e.display)
  | .lockSession sessionId => self.lockSession env sessionId .manual
  | .unlock sessionId userName password => self.unlock env sessionId userName password
  | .reportActivity seatId =>
    { daemon := { self with idle := self.idle.recordActivity seatId env.now }
      effects := []
      response := some .ok }
  | .switchSession seatId sessionId => self.switchSession seatId sessionId
  | .inhibit what who why mode =>
    let added := self.locks.addInhibitor what who why mode
    { daemon := { self with locks := added.1 }
      effects := []
      response := some (.inhibitGranted added.2) }
  | .releaseInhibit inhibitId =>
    match self.locks.releaseInhibitor inhibitId with
    | .ok locks => { daemon := { self with locks }, effects := [], response := some .ok }
    | .error e => answer (.error e.display)
  | .listInhibitors => answer (.inhibitors (self.locks.inhibitors.list.map inhibitorInfo))
  | .suspend =>
    let done := MitosSession.suspend self.sessions self.locks (LockPolicy.from self.settings.lock)
      self.registry (env.power self.powerBackend .suspend) grace
    { daemon := { self with locks := done.1 }
      effects := done.2.1
      response := some (unitResponse done.2.2) }
  | .reboot =>
    let done := MitosSession.reboot self.sessions self.locks
      (env.power self.powerBackend .reboot) grace
    { daemon := { self with sessions := done.1 }
      effects := done.2.1
      response := some (unitResponse done.2.2) }
  | .powerOff =>
    let done := MitosSession.poweroff self.sessions self.locks
      (env.power self.powerBackend .poweroff) grace
    { daemon := { self with sessions := done.1 }
      effects := done.2.1
      response := some (unitResponse done.2.2) }
  | .requestElevation sessionId action => self.startElevation env connId sessionId action
  | .respondElevation requestId response => self.respondElevation env requestId response

/-- `Daemon::handle_command`. -/
def handleCommand (self : Daemon) (env : Env) (cmd : ManagerCommand) : Daemon × List Effect :=
  match authorize env.userByName cmd.peer cmd.connId cmd.request self.sessions self.elevation with
  | .error e => (self, [self.registry.sendResponse cmd.connId (.error e.display)])
  | .ok () =>
    let reply := self.dispatch env cmd.connId cmd.request
    (reply.daemon,
      reply.effects ++
        (reply.response.map (reply.daemon.registry.sendResponse cmd.connId)).toList)

/-- The `Disconnected` arm of `handle_ipc`. -/
def disconnected (self : Daemon) (connId : ConnId) : Daemon × List Effect :=
  -- unregistered first: what follows no longer reaches this connection
  let registry := self.registry.unregister connId
  let sessions :=
    { self.sessions with
      sessions := self.sessions.sessions.mapVal fun _ ctx =>
        if ctx.compositorConn = some connId then { ctx with compositorConn := none } else ctx }
  let abandoned := self.elevation.abandonConnection connId
  ({ self with registry, sessions, elevation := abandoned.1 },
    abandoned.2.flatMap (notifyElevationAbandoned registry "a required connection disconnected"))

/-- `Daemon::handle_ipc`. -/
def handleIpc (self : Daemon) (env : Env) : ManagerMessage → Daemon × List Effect
  | .connected connId _ outbox =>
    ({ self with registry := self.registry.register connId outbox }, [])
  | .disconnected connId => self.disconnected connId
  | .command cmd => self.handleCommand env cmd

/-! ## The idle tick -/

/-- `Daemon::notify_active_compositor`. -/
def notifyActiveCompositor (self : Daemon) (seatId : String) (event : Event) : List Effect :=
  match self.seats.activeSession seatId with
  | .ok (some sessionId) =>
    match self.sessions.get sessionId with
    | .ok ctx => self.registry.sendEventTo ctx.compositorConn event
    | .error _ => []
  | _ => []

/-- The `LockRequested` arm of `on_idle_tick`. -/
def idleLock (self : Daemon) (env : Env) (seatId : String) : Daemon × List Effect :=
  let lockPolicy := LockPolicy.from self.settings.lock
  if !lockPolicy.lockOnIdle then
    (self, [])
  else
    match self.seats.activeSession seatId with
    | .ok (some sessionId) =>
      if self.cannotUnlock env sessionId then
        (self, [])
      else
        match self.locks.lock sessionId lockPolicy with
        | .ok locks => { self with locks }.showLock sessionId .idle
        | .error _ => (self, [])
    | _ => (self, [])

/-- The `SuspendRequested` arm of `on_idle_tick`. -/
def idleSuspend (self : Daemon) (env : Env) : Daemon × List Effect :=
  let done := MitosSession.suspend self.sessions self.locks (LockPolicy.from self.settings.lock)
    self.registry (env.power self.powerBackend .suspend)
    (Duration.fromSecs self.settings.power.suspendInhibitGraceSecs)
  ({ self with locks := done.1 }, done.2.1)

/-- The body of the loop of `on_idle_tick` over the stage changes. -/
def idleChange (env : Env) (self : Daemon) (change : String × IdleStage) : Daemon × List Effect :=
  match change.2 with
  | .active => (self, [])
  | .dimmed => (self, self.notifyActiveCompositor change.1 (.dim change.1))
  | .lockRequested => self.idleLock env change.1
  | .suspendRequested => self.idleSuspend env

/-- The sweeps at the end of `on_idle_tick`: screen lockouts, elevation lockouts, prompt
    timeouts. -/
def sweep (self : Daemon) (now : Instant) : Daemon × List Effect :=
  -- lockouts end before the prompts that outlived their timeout are torn down
  let expired := (self.elevation.clearExpiredLockouts now).expirePending now
  ({ self with locks := self.locks.sweepLockouts now, elevation := expired.1 },
    expired.2.flatMap
      (notifyElevationAbandoned self.registry "timed out waiting for a response"))

/-- `Daemon::on_idle_tick`. -/
def onIdleTick (self : Daemon) (env : Env) : Daemon × List Effect :=
  let ticked := self.idle.tick env.now (IdlePolicy.from self.settings.idle)
  let changed := forEach (idleChange env) { self with idle := ticked.1 } ticked.2
  let swept := changed.1.sweep env.now
  (swept.1, changed.2 ++ swept.2)

/-! ## Signals -/

/-- A child `waitpid` reported, and what spawning its replacement yields. -/
structure ReapedChild where
  pid : Pid
  respawned : Result Pid

/-- `Daemon::handle_compositor_exit`. -/
def handleCompositorExit (self : Daemon) (child : ReapedChild) : Daemon × List Effect :=
  match self.sessions.sessions.entries.find? fun e => e.2.compositorProcess = some child.pid with
  | none => (self, [])
  | some ⟨key, found⟩ =>
    let sessionId := found.id
    -- the connection goes, whichever other session may use it too
    let registry :=
      match found.compositorConn with
      | some conn => self.registry.unregister conn
      | none => self.registry
    let cleared := self.sessions.update key fun ctx =>
      { ctx with compositorProcess := none, compositorConn := none }
    let self :=
      { self with registry, sessions := cleared.update sessionId (·.transition .starting) }
    match decideRestart found.compositorRestarts self.settings.session.maxCompositorRestarts with
    | .restart =>
      { self with
        sessions := self.sessions.update sessionId fun ctx =>
          { ctx with compositorRestarts := wrapU32 (ctx.compositorRestarts + 1) }
        : Daemon }.trySpawnCompositor child.respawned sessionId
    | .fallbackToTerminal =>
      match self.sessions.get sessionId, child.respawned with
      | .ok _, .ok pid =>
        ({ self with
            sessions := self.sessions.update sessionId fun ctx =>
              { ctx with compositorProcess := some pid } },
          [.spawn sessionId .fallbackTerminal true])
      | .ok _, .error _ => (self, [.spawn sessionId .fallbackTerminal false])
      | .error _, _ => (self, [])

/-- `Daemon::reap_children`, for the children `waitpid` reports until it blocks. -/
def reapChildren (self : Daemon) (children : List ReapedChild) : Daemon × List Effect :=
  forEach handleCompositorExit self children

/-- `signals::SignalEvent`. -/
inductive SignalEvent where
  | terminate
  | reloadConfig
  | reapChildren (children : List ReapedChild)

/-- The `ReloadConfig` arm of `on_signal`. -/
def reloadConfig (self : Daemon) (env : Env) : Daemon :=
  -- a path given on the command line is not used again, and a bad file keeps the old settings
  match load env.config none with
  | .error _ => self
  | .ok newSettings =>
    { self with
      authenticator :=
        PamAuthenticator.new (authPolicy newSettings.authentication newSettings.lock)
      elevation := self.elevation.setRequesterUid
        (resolveElevationRequester env newSettings.elevation)
      settings := newSettings }

/-- `Daemon::on_signal`. -/
def onSignal (self : Daemon) (env : Env) : SignalEvent → Daemon × List Effect
  | .terminate => ({ self with sessions := self.sessions.terminateAll, shouldExit := true }, [])
  | .reloadConfig => (self.reloadConfig env, [])
  | .reapChildren children => self.reapChildren children

end Daemon

end MitosSession
