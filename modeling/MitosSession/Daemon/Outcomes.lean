import MitosSession.Daemon

set_option autoImplicit false

/-! # How a handler can go, and what it writes

The handlers of the daemon check one thing after another and mostly change nothing when a check
fails. For those with several such checks there is one lemma that lists their outcomes (`_cases`);
for every handler there is one that names the parts of the daemon it writes (`_writes`). That it
leaves any other part alone is then read off by projecting the equation, so that the modules about
connections, locks and prompts do not have to go through the handlers again. -/

namespace MitosSession

namespace Request

/-- The requests whose handlers write to the session manager. -/
def writesSessions : Request → Bool
  | .createSession _ _ _ => true
  | .terminateSession _ => true
  | .registerCompositor _ => true
  | .lockSession _ => true
  | .unlock _ _ _ => true
  | .reboot => true
  | .powerOff => true
  | _ => false

/-- The same for the lock manager. -/
def writesLocks : Request → Bool
  | .lockSession _ => true
  | .unlock _ _ _ => true
  | .inhibit _ _ _ _ => true
  | .releaseInhibit _ => true
  | .suspend => true
  | _ => false

/-- The same for the elevation manager. -/
def writesElevation : Request → Bool
  | .terminateSession _ => true
  | .requestElevation _ _ => true
  | .respondElevation _ _ => true
  | _ => false

end Request

namespace Daemon

variable (d : Daemon) (env : Env)

/-! ## Outcomes -/

/-- A new session is entered under the next id and attached to its seat. -/
def enter (self : Daemon) (seatId : String) (ctx : SessionContext) : Daemon :=
  { self with
    sessions :=
      { sessions := self.sessions.sessions.insert self.sessions.nextId ctx
        nextId := wrapU32 (self.sessions.nextId + 1) }
    seats := self.seats.attachSession seatId self.sessions.nextId }

/-- `create_session` fails, at most an id the poorer, or enters a new session and, unless it is a
    `tty` one, spawns its compositor. -/
theorem createSession_cases (userName : String) (seatId sessionType : Option String) :
    (∃ (e : SessionError) (sessions : SessionManager),
        (sessions = d.sessions
          ∨ sessions = { d.sessions with nextId := wrapU32 (d.sessions.nextId + 1) })
        ∧ d.createSession env userName seatId sessionType
          = { daemon := { d with sessions }, effects := [], response := some (.error e.display) })
      ∨ ∃ user ctx kind launched response, env.userByName userName = .ok user
        ∧ wrapU32 (d.sessions.sessions.countVal fun c => c.user.uid = user.uid)
          < d.settings.session.maxSessionsPerUser
        ∧ begin (env.prepared user) d.sessions.nextId user
          (seatId.getD d.settings.seat.defaultSeat) kind env.systemTime = .ok ctx
        ∧ (launched = (d.enter (seatId.getD d.settings.seat.defaultSeat) ctx).trySpawnCompositor
              env.spawned d.sessions.nextId
          ∨ launched = (d.enter (seatId.getD d.settings.seat.defaultSeat) ctx, []))
        ∧ response ≠ .authResult .success
        ∧ d.createSession env userName seatId sessionType
          = { daemon := launched.1, effects := launched.2, response := some response } := by
  unfold createSession
  cases env.userByName userName with
  | error e => exact Or.inl ⟨e, d.sessions, Or.inl rfl, rfl⟩
  | ok user =>
      dsimp only
      generalize (if sessionType = some "x11" then SessionType.x11
        else if sessionType = some "tty" then SessionType.tty
        else (SessionPolicy.from d.settings.session).defaultSessionType) = kind
      rcases d.sessions.createSession_cases (env.prepared user) env.systemTime user
        (seatId.getD d.settings.seat.defaultSeat) kind d.settings.session with
        ⟨e, herror, hspent⟩ | ⟨ctx, hroom, hbegin, hcreated⟩
      · rw [herror]
        exact Or.inl ⟨e, _, hspent, rfl⟩
      · rw [hcreated]
        refine Or.inr ⟨user, ctx, kind, _, _, rfl, hroom, hbegin, ?_, ?_, rfl⟩
        · split
          · exact Or.inl rfl
          · exact Or.inr rfl
        · split <;> simp

/-- `TerminateSession` fails on an unknown session; a known one is erased, taken off its seat, and
    its prompts are torn down. -/
theorem terminateSession_cases (sessionId : SessionId) :
    (∃ e : SessionError, d.sessions.sessions.lookup sessionId = none
        ∧ d.terminateSession sessionId
          = { daemon := d, effects := [], response := some (.error e.display) })
      ∨ ∃ ctx, d.sessions.sessions.lookup sessionId = some ctx
        ∧ d.terminateSession sessionId
          = { daemon := { d with
                sessions := { d.sessions with sessions := d.sessions.sessions.erase sessionId }
                seats := d.seats.detachSession sessionId
                elevation := (d.elevation.abandonSession sessionId).1 }
              effects := (d.elevation.abandonSession sessionId).2.flatMap
                (notifyElevationAbandoned d.registry "session ended")
              response := some .ok } := by
  unfold terminateSession SessionManager.terminateSession
  cases hctx : d.sessions.sessions.lookup sessionId with
  | none => exact Or.inl ⟨_, rfl, rfl⟩
  | some ctx => exact Or.inr ⟨ctx, rfl, rfl⟩

/-- `lock_session` refuses and changes nothing, or engages the lock and shows it. -/
theorem lockSession_cases (sessionId : SessionId) (reason : LockReason) :
    (∃ text, d.lockSession env sessionId reason
        = { daemon := d, effects := [], response := some (.error text) })
      ∨ ∃ locks, d.locks.lock sessionId (LockPolicy.from d.settings.lock) = .ok locks
        ∧ d.lockSession env sessionId reason
          = { daemon := ({ d with locks }.showLock sessionId reason).1
              effects := ({ d with locks }.showLock sessionId reason).2
              response := some .ok } := by
  unfold lockSession
  split
  · exact Or.inl ⟨_, rfl⟩
  · split
    · exact Or.inl ⟨_, rfl⟩
    · rename_i locks hlock
      exact Or.inr ⟨locks, hlock, rfl⟩

/-- The same for the `LockRequested` arm of the tick. -/
theorem idleLock_shows (seatId : String) :
    d.idleLock env seatId = (d, [])
      ∨ ∃ sessionId locks,
        d.locks.lock sessionId (LockPolicy.from d.settings.lock) = .ok locks
          ∧ d.idleLock env seatId = { d with locks }.showLock sessionId .idle := by
  unfold idleLock
  dsimp only
  split
  · exact Or.inl rfl
  · split
    · rename_i sessionId _
      split
      · exact Or.inl rfl
      · split
        · rename_i locks hlock
          exact Or.inr ⟨sessionId, locks, hlock, rfl⟩
        · exact Or.inl rfl
    · exact Or.inl rfl

/-- `start_elevation` rejects the request and changes nothing, or opens a prompt and leaves the
    request unanswered. -/
theorem startElevation_cases (connId : ConnId) (sessionId : SessionId)
    (action : ElevationAction) :
    (∃ response, response ≠ .authResult .success ∧ d.startElevation env connId sessionId action
        = { daemon := d, effects := [], response := some response })
      ∨ ∃ ctx compositorConn begun, d.sessions.sessions.lookup sessionId = some ctx
        ∧ ctx.compositorConn = some compositorConn
        ∧ d.elevation.begin sessionId compositorConn connId
          (ElevationPolicy.from d.settings.elevation) (elevationAuthPolicy d.settings.elevation)
          env.now = .ok begun
        ∧ d.startElevation env connId sessionId action
          = { daemon := { d with elevation := begun.1 }
              effects := [d.registry.sendEvent compositorConn
                (.showElevationPrompt begun.2 sessionId action)]
              response := none } := by
  unfold startElevation
  dsimp only
  split
  · exact Or.inl ⟨_, by simp, rfl⟩
  · split
    · exact Or.inl ⟨_, by simp, rfl⟩
    · cases hctx : d.sessions.sessions.lookup sessionId with
      | none =>
          simp only [SessionManager.get, hctx]
          exact Or.inl ⟨_, by simp, rfl⟩
      | some ctx =>
          simp only [SessionManager.get, hctx]
          split
          · exact Or.inl ⟨_, by simp, rfl⟩
          · cases hconn : ctx.compositorConn with
            | none => exact Or.inl ⟨_, by simp, rfl⟩
            | some compositorConn =>
                dsimp only
                split
                · exact Or.inl ⟨_, by simp, rfl⟩
                · exact Or.inl ⟨_, by simp, rfl⟩
                · rename_i begun hbegin
                  exact Or.inr ⟨ctx, compositorConn, begun, rfl, hconn, hbegin, rfl⟩

/-- `respond_elevation` rejects the answer and changes nothing, or the prompt is open and is
    cancelled, or a password is tried for the account of its session. -/
theorem respondElevation_cases (requestId : ElevationRequestId) (response : ElevationResponse) :
    (∃ e : SessionError, d.respondElevation env requestId response
        = { daemon := d, effects := [], response := some (.error e.display) })
      ∨ ∃ p, d.elevation.pending.lookup requestId = some p
        ∧ ((response = .cancelled
            ∧ d.respondElevation env requestId response
              = { daemon := { d with elevation := d.elevation.close requestId }
                  effects := d.reportElevation requestId
                    { sessionId := p.sessionId
                      compositorConn := p.compositorConn
                      requesterConn := p.requesterConn
                      outcome := .cancelled
                      terminal := true }
                  response := some (.authResult .cancelled) })
          ∨ ∃ password ctx attempt, response = .password password
            ∧ d.sessions.sessions.lookup p.sessionId = some ctx
            ∧ d.elevation.attempt requestId (d.authenticator.authenticate env.pam)
              { sessionId := p.sessionId, userName := ctx.session.userName, password }
              (elevationAuthPolicy d.settings.elevation) env.now = some attempt
            ∧ d.respondElevation env requestId response
              = { daemon := { d with elevation := attempt.manager }
                  effects := d.authEffects env attempt.calls
                    ++ d.reportElevation requestId attempt.resolved
                  response := some (.authResult attempt.resolved.outcome) }) := by
  unfold respondElevation
  cases hp : d.elevation.pending.lookup requestId with
  | none =>
      simp only [ElevationManager.peek, hp, Option.map_none]
      exact Or.inl ⟨_, rfl⟩
  | some p =>
      simp only [ElevationManager.peek, hp, Option.map_some]
      cases response with
      | cancelled =>
          simp only [ElevationManager.cancel, hp]
          exact Or.inr ⟨p, rfl, Or.inl ⟨trivial, rfl⟩⟩
      | password password =>
          cases hctx : d.sessions.sessions.lookup p.sessionId with
          | none =>
              simp only [SessionManager.get, hctx]
              exact Or.inl ⟨_, rfl⟩
          | some ctx =>
              simp only [SessionManager.get, hctx]
              split
              · exact Or.inl ⟨_, rfl⟩
              · rename_i attempt hattempt
                exact Or.inr ⟨p, rfl, Or.inr ⟨password, ctx, attempt, rfl, hctx, hattempt, rfl⟩⟩

/-! ## What requests write -/

theorem trySpawnCompositor_writes (spawned : Result Pid) (id : SessionId) :
    ∃ sessions, (d.trySpawnCompositor spawned id).1 = { d with sessions } := by
  unfold trySpawnCompositor
  split
  · exact ⟨_, rfl⟩
  · split
    · exact ⟨_, rfl⟩
    · exact ⟨_, rfl⟩

theorem createSession_writes (userName : String) (seatId sessionType : Option String) :
    ∃ sessions seats,
      (d.createSession env userName seatId sessionType).daemon = { d with sessions, seats } := by
  rcases createSession_cases d env userName seatId sessionType with
    ⟨e, sessions, -, heq⟩ | ⟨user, ctx, kind, launched, response, -, -, -, rfl | rfl, -, heq⟩
  · rw [heq]
    exact ⟨_, _, rfl⟩
  · obtain ⟨sessions, hspawned⟩ := trySpawnCompositor_writes
      (d.enter (seatId.getD d.settings.seat.defaultSeat) ctx) env.spawned d.sessions.nextId
    rw [heq]
    exact ⟨sessions, _, hspawned⟩
  · rw [heq]
    exact ⟨_, _, rfl⟩

theorem terminateSession_writes (sessionId : SessionId) :
    ∃ sessions seats elevation,
      (d.terminateSession sessionId).daemon = { d with sessions, seats, elevation } := by
  rcases terminateSession_cases d sessionId with ⟨e, -, heq⟩ | ⟨ctx, -, heq⟩
  · rw [heq]
    exact ⟨_, _, _, rfl⟩
  · rw [heq]
    exact ⟨_, _, _, rfl⟩

theorem registerCompositor_writes (connId : ConnId) (sessionId : SessionId) :
    ∃ sessions, (d.registerCompositor connId sessionId).daemon = { d with sessions } := by
  unfold registerCompositor
  split
  · exact ⟨_, rfl⟩
  · dsimp only
    split
    · exact ⟨_, rfl⟩
    · exact ⟨_, rfl⟩

theorem switchSession_writes (seatId : String) (sessionId : SessionId) :
    ∃ seats, (d.switchSession seatId sessionId).daemon = { d with seats } := by
  unfold switchSession
  split
  · exact ⟨_, rfl⟩
  · exact ⟨_, rfl⟩

theorem showLock_writes (sessionId : SessionId) (reason : LockReason) :
    ∃ sessions, (d.showLock sessionId reason).1 = { d with sessions } := by
  unfold showLock
  split
  · exact ⟨_, rfl⟩
  · exact ⟨_, rfl⟩

theorem lockSession_writes (sessionId : SessionId) (reason : LockReason) :
    ∃ sessions locks,
      (d.lockSession env sessionId reason).daemon = { d with sessions, locks } := by
  rcases lockSession_cases d env sessionId reason with ⟨text, heq⟩ | ⟨locks, -, heq⟩
  · rw [heq]
    exact ⟨_, _, rfl⟩
  · obtain ⟨sessions, hshown⟩ := showLock_writes { d with locks } sessionId reason
    rw [heq]
    exact ⟨sessions, locks, hshown⟩

theorem unlock_writes (sessionId : SessionId) (userName password : String) :
    ∃ sessions locks,
      (d.unlock env sessionId userName password).daemon = { d with sessions, locks } := by
  unfold unlock
  dsimp only
  split
  · exact ⟨_, _, rfl⟩
  · exact ⟨_, _, rfl⟩

theorem releaseInhibit_writes (connId : ConnId) (inhibitId : ℕ) :
    ∃ locks, (d.dispatch env connId (.releaseInhibit inhibitId)).daemon = { d with locks } := by
  simp only [dispatch]
  split
  · exact ⟨_, rfl⟩
  · exact ⟨_, rfl⟩

theorem startElevation_writes (connId : ConnId) (sessionId : SessionId)
    (action : ElevationAction) :
    ∃ elevation,
      (d.startElevation env connId sessionId action).daemon = { d with elevation } := by
  rcases startElevation_cases d env connId sessionId action with
    ⟨response, -, heq⟩ | ⟨ctx, compositorConn, begun, -, -, -, heq⟩
  · rw [heq]
    exact ⟨_, rfl⟩
  · rw [heq]
    exact ⟨_, rfl⟩

theorem respondElevation_writes (requestId : ElevationRequestId) (response : ElevationResponse) :
    ∃ elevation,
      (d.respondElevation env requestId response).daemon = { d with elevation } := by
  rcases respondElevation_cases d env requestId response with
    ⟨e, heq⟩ | ⟨p, -, ⟨-, heq⟩ | ⟨password, ctx, attempt, -, -, -, heq⟩⟩
  all_goals
    rw [heq]
    exact ⟨_, rfl⟩

/-- **Which request writes to which manager.** -/
theorem dispatch_writes (connId : ConnId) (request : Request) :
    ∃ sessions seats locks idle elevation,
      (d.dispatch env connId request).daemon = { d with sessions, seats, locks, idle, elevation }
        ∧ (request.writesSessions = false → sessions = d.sessions)
        ∧ (request.writesLocks = false → locks = d.locks)
        ∧ (request.writesElevation = false → elevation = d.elevation) := by
  cases request with
  | createSession userName seatId sessionType =>
      obtain ⟨sessions, seats, heq⟩ := createSession_writes d env userName seatId sessionType
      exact ⟨sessions, seats, _, _, _, heq, nofun, fun _ => rfl, fun _ => rfl⟩
  | terminateSession sessionId =>
      obtain ⟨sessions, seats, elevation, heq⟩ := terminateSession_writes d sessionId
      exact ⟨sessions, seats, _, _, elevation, heq, nofun, fun _ => rfl, nofun⟩
  | registerCompositor sessionId =>
      obtain ⟨sessions, heq⟩ := registerCompositor_writes d connId sessionId
      exact ⟨sessions, _, _, _, _, heq, nofun, fun _ => rfl, fun _ => rfl⟩
  | lockSession sessionId =>
      obtain ⟨sessions, locks, heq⟩ := lockSession_writes d env sessionId .manual
      exact ⟨sessions, _, locks, _, _, heq, nofun, nofun, fun _ => rfl⟩
  | unlock sessionId userName password =>
      obtain ⟨sessions, locks, heq⟩ := unlock_writes d env sessionId userName password
      exact ⟨sessions, _, locks, _, _, heq, nofun, nofun, fun _ => rfl⟩
  | switchSession seatId sessionId =>
      obtain ⟨seats, heq⟩ := switchSession_writes d seatId sessionId
      exact ⟨_, seats, _, _, _, heq, fun _ => rfl, fun _ => rfl, fun _ => rfl⟩
  | inhibit what who why mode =>
      exact ⟨_, _, _, _, _, rfl, fun _ => rfl, nofun, fun _ => rfl⟩
  | releaseInhibit inhibitId =>
      obtain ⟨locks, heq⟩ := releaseInhibit_writes d env connId inhibitId
      exact ⟨_, _, locks, _, _, heq, fun _ => rfl, nofun, fun _ => rfl⟩
  | suspend => exact ⟨_, _, _, _, _, rfl, fun _ => rfl, nofun, fun _ => rfl⟩
  | reboot => exact ⟨_, _, _, _, _, rfl, nofun, fun _ => rfl, fun _ => rfl⟩
  | powerOff => exact ⟨_, _, _, _, _, rfl, nofun, fun _ => rfl, fun _ => rfl⟩
  | requestElevation sessionId action =>
      obtain ⟨elevation, heq⟩ := startElevation_writes d env connId sessionId action
      exact ⟨_, _, _, _, elevation, heq, fun _ => rfl, fun _ => rfl, nofun⟩
  | respondElevation requestId response =>
      obtain ⟨elevation, heq⟩ := respondElevation_writes d env requestId response
      exact ⟨_, _, _, _, elevation, heq, fun _ => rfl, fun _ => rfl, nofun⟩
  | _ => exact ⟨_, _, _, _, _, rfl, fun _ => rfl, fun _ => rfl, fun _ => rfl⟩

/-! ## What ticks and signals write -/

theorem idleLock_writes (seatId : String) :
    ∃ sessions locks, (d.idleLock env seatId).1 = { d with sessions, locks } := by
  rcases idleLock_shows d env seatId with heq | ⟨sessionId, locks, -, heq⟩
  · rw [heq]
    exact ⟨_, _, rfl⟩
  · obtain ⟨sessions, hshown⟩ := showLock_writes { d with locks } sessionId .idle
    rw [heq]
    exact ⟨sessions, locks, hshown⟩

theorem idleChange_writes (change : String × IdleStage) :
    ∃ sessions locks, (idleChange env d change).1 = { d with sessions, locks } := by
  obtain ⟨seatId, stage⟩ := change
  cases stage with
  | active => exact ⟨_, _, rfl⟩
  | dimmed => exact ⟨_, _, rfl⟩
  | lockRequested => exact idleLock_writes d env seatId
  | suspendRequested => exact ⟨_, _, rfl⟩

theorem handleCompositorExit_writes (child : ReapedChild) :
    ∃ registry sessions,
      (d.handleCompositorExit child).1 = { d with registry, sessions } := by
  unfold handleCompositorExit
  split
  · exact ⟨_, _, rfl⟩
  · dsimp only
    split
    · obtain ⟨sessions, hspawned⟩ := trySpawnCompositor_writes
        { d with registry := _, sessions := _ } child.respawned _
      exact ⟨_, sessions, hspawned⟩
    · split
      · exact ⟨_, _, rfl⟩
      · exact ⟨_, _, rfl⟩
      · exact ⟨_, _, rfl⟩

/-! ## Projections -/

section Projections

variable {d env}

theorem trySpawnCompositor_registry (spawned : Result Pid) (id : SessionId) :
    (d.trySpawnCompositor spawned id).1.registry = d.registry := by
  obtain ⟨sessions, heq⟩ := trySpawnCompositor_writes d spawned id
  rw [heq]

theorem createSession_locks (userName : String) (seatId sessionType : Option String) :
    (d.createSession env userName seatId sessionType).daemon.locks = d.locks := by
  obtain ⟨sessions, seats, heq⟩ := createSession_writes d env userName seatId sessionType
  rw [heq]

theorem registerCompositor_registry (connId : ConnId) (sessionId : SessionId) :
    (d.registerCompositor connId sessionId).daemon.registry = d.registry := by
  obtain ⟨sessions, heq⟩ := registerCompositor_writes d connId sessionId
  rw [heq]

theorem registerCompositor_elevation (connId : ConnId) (sessionId : SessionId) :
    (d.registerCompositor connId sessionId).daemon.elevation = d.elevation := by
  obtain ⟨sessions, heq⟩ := registerCompositor_writes d connId sessionId
  rw [heq]

theorem showLock_registry (sessionId : SessionId) (reason : LockReason) :
    (d.showLock sessionId reason).1.registry = d.registry := by
  obtain ⟨sessions, heq⟩ := showLock_writes d sessionId reason
  rw [heq]

theorem showLock_elevation (sessionId : SessionId) (reason : LockReason) :
    (d.showLock sessionId reason).1.elevation = d.elevation := by
  obtain ⟨sessions, heq⟩ := showLock_writes d sessionId reason
  rw [heq]

theorem showLock_locks (sessionId : SessionId) (reason : LockReason) :
    (d.showLock sessionId reason).1.locks = d.locks := by
  obtain ⟨sessions, heq⟩ := showLock_writes d sessionId reason
  rw [heq]

theorem unlock_registry (sessionId : SessionId) (userName password : String) :
    (d.unlock env sessionId userName password).daemon.registry = d.registry := by
  obtain ⟨sessions, locks, heq⟩ := unlock_writes d env sessionId userName password
  rw [heq]

theorem unlock_elevation (sessionId : SessionId) (userName password : String) :
    (d.unlock env sessionId userName password).daemon.elevation = d.elevation := by
  obtain ⟨sessions, locks, heq⟩ := unlock_writes d env sessionId userName password
  rw [heq]

theorem idleChange_registry (change : String × IdleStage) :
    (idleChange env d change).1.registry = d.registry := by
  obtain ⟨sessions, locks, heq⟩ := idleChange_writes d env change
  rw [heq]

theorem idleChange_elevation (change : String × IdleStage) :
    (idleChange env d change).1.elevation = d.elevation := by
  obtain ⟨sessions, locks, heq⟩ := idleChange_writes d env change
  rw [heq]

theorem handleCompositorExit_locks (child : ReapedChild) :
    (d.handleCompositorExit child).1.locks = d.locks := by
  obtain ⟨registry, sessions, heq⟩ := handleCompositorExit_writes d child
  rw [heq]

theorem handleCompositorExit_elevation (child : ReapedChild) :
    (d.handleCompositorExit child).1.elevation = d.elevation := by
  obtain ⟨registry, sessions, heq⟩ := handleCompositorExit_writes d child
  rw [heq]

/-- No request writes to the registry of connections. -/
theorem dispatch_registry (connId : ConnId) (request : Request) :
    (d.dispatch env connId request).daemon.registry = d.registry := by
  obtain ⟨sessions, seats, locks, idle, elevation, heq, -⟩ := dispatch_writes d env connId request
  rw [heq]

theorem dispatch_sessions (connId : ConnId) {request : Request}
    (h : request.writesSessions = false) :
    (d.dispatch env connId request).daemon.sessions = d.sessions := by
  obtain ⟨sessions, seats, locks, idle, elevation, heq, hsessions, -, -⟩ :=
    dispatch_writes d env connId request
  rw [heq]
  exact hsessions h

theorem dispatch_locks (connId : ConnId) {request : Request} (h : request.writesLocks = false) :
    (d.dispatch env connId request).daemon.locks = d.locks := by
  obtain ⟨sessions, seats, locks, idle, elevation, heq, -, hlocks, -⟩ :=
    dispatch_writes d env connId request
  rw [heq]
  exact hlocks h

theorem dispatch_elevation (connId : ConnId) {request : Request}
    (h : request.writesElevation = false) :
    (d.dispatch env connId request).daemon.elevation = d.elevation := by
  obtain ⟨sessions, seats, locks, idle, elevation, heq, -, -, helevation⟩ :=
    dispatch_writes d env connId request
  rw [heq]
  exact helevation h

end Projections

end Daemon

end MitosSession
