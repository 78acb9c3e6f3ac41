import MitosSession.Launcher
import MitosSession.Daemon.Restarts
import MitosSession.Daemon.Topics

set_option autoImplicit false

/-! # What the daemon starts

`Daemon` leaves out what a program is started with, the `environment` of a `SessionContext`; all it
knows of `launcher` is whether a spawn worked. `Launching` puts that back: the handlers that start
programs, with the environments and with the processes they start (`Launch`). Every step of
`Launching` is a step of `Daemon` with the same programs started, `handle_refines`.

`launches_confined` is about every program the daemon ever starts for a session, the first
compositor, its replacements after crashes and the fallback terminal: it runs as the account the
session was created for and in the environment that was made then, whatever has happened to the
account or to the configuration since. -/

namespace MitosSession

/-- A program started for a session, and the system it was started on. -/
structure Launch where
  sessionId : SessionId
  program : Program
  os : Os
  process : Process

/-- The daemon with the environments of its sessions. -/
structure Launching where
  daemon : Daemon
  environments : SessionId → Environment := fun _ => {}

/-- The events, children coming with the system their replacement is started on. -/
inductive LaunchEvent where
  | ipc (message : ManagerMessage)
  | idleTick
  | terminate
  | reloadConfig
  | reapChildren (children : List (Pid × Os))

/-- The launch, if it worked. -/
def launched (id : SessionId) (program : Program) (os : Os) : Result (Process × Pid) → List Launch
  | .ok (process, _) => [{ sessionId := id, program, os, process }]
  | .error _ => []

namespace Launching

/-! ## Handlers -/

/-- `Daemon::try_spawn_compositor`. -/
def trySpawnCompositor (self : Launching) (os : Os) (id : SessionId) : Launching × List Launch :=
  match self.daemon.sessions.get id with
  | .error _ => (self, [])
  | .ok ctx =>
    let binary := self.daemon.settings.session.compositorBinary
    let spawned := spawnCompositor ctx.user (self.environments id) binary os
    ({ self with daemon := (self.daemon.trySpawnCompositor (spawned.map Prod.snd) id).1 },
      launched id .compositor os spawned)

/-- The type of session a request asks for. -/
def requestedType (settings : SessionSettings) (sessionType : Option String) : SessionType :=
  if sessionType = some "x11" then .x11
  else if sessionType = some "tty" then .tty
  else (SessionPolicy.from settings).defaultSessionType

/-- `Daemon::create_session`. -/
def createSession (self : Launching) (env : Env) (os : Os) (userName : String)
    (seatId sessionType : Option String) : Launching × List Launch :=
  match env.userByName userName with
  | .error _ => (self, [])
  | .ok user =>
    let settings := self.daemon.settings
    let seatId := seatId.getD settings.seat.defaultSeat
    let sessionType := requestedType settings.session sessionType
    let created := self.daemon.sessions.createSession (env.prepared user) env.systemTime user seatId
      sessionType settings.session
    match created.2 with
    | .error _ => ({ self with daemon := { self.daemon with sessions := created.1 } }, [])
    | .ok id =>
      let environment :=
        (Environment.forSession user id sessionType seatId settings.session.runtimeDir).1
      let attached : Launching :=
        { daemon :=
            { self.daemon with
              sessions := created.1, seats := self.daemon.seats.attachSession seatId id }
          environments := Function.update self.environments id environment }
      if sessionType ≠ .tty then attached.trySpawnCompositor os id else (attached, [])

/-- The last part of `handle_compositor_exit`: what `decide_restart` leads to. -/
def replaceCompositor (self : Launching) (os : Os) (sessionId : SessionId) (restarts : ℕ) :
    Launching × List Launch :=
  match decideRestart restarts self.daemon.maxRestarts with
  | .restart =>
    let sessions := self.daemon.sessions.update sessionId fun ctx =>
      { ctx with compositorRestarts := wrapU32 (ctx.compositorRestarts + 1) }
    { self with daemon := { self.daemon with sessions } : Launching }.trySpawnCompositor os
      sessionId
  | .fallbackToTerminal =>
    match self.daemon.sessions.get sessionId with
    | .error _ => (self, [])
    | .ok ctx =>
      let spawned := spawnFallbackTerminal ctx.user (self.environments sessionId) os
      let sessions :=
        match spawned with
        | .ok (_, pid) =>
          self.daemon.sessions.update sessionId
            fun ctx => { ctx with compositorProcess := some pid }
        | .error _ => self.daemon.sessions
      ({ self with daemon := { self.daemon with sessions } },
        launched sessionId .fallbackTerminal os spawned)

/-- `Daemon::handle_compositor_exit`. -/
def handleCompositorExit (self : Launching) (child : Pid × Os) : Launching × List Launch :=
  match self.daemon.sessions.sessions.entries.find? fun e =>
    e.2.compositorProcess = some child.1 with
  | none => (self, [])
  | some ⟨key, found⟩ =>
    let lost := self.daemon.loseCompositor key found
    let lost := { lost with sessions := lost.sessions.update found.id (·.transition .starting) }
    { self with daemon := lost : Launching }.replaceCompositor child.2 found.id
      found.compositorRestarts

/-- A handler that starts nothing. -/
def quietly (self : Launching) (env : Env) (event : DaemonEvent) : Launching × List Launch :=
  ({ self with daemon := (self.daemon.handle env event).1 }, [])

/-- `Daemon::handle_command`. -/
def handleCommand (self : Launching) (env : Env) (os : Os) (cmd : ManagerCommand) :
    Launching × List Launch :=
  match authorize env.userByName cmd.peer cmd.connId cmd.request self.daemon.sessions
    self.daemon.elevation with
  | .error _ => (self, [])
  | .ok () =>
    match cmd.request with
    | .createSession userName seatId sessionType =>
      self.createSession env os userName seatId sessionType
    | _ => self.quietly env (.ipc (.command cmd))

/-- The callbacks of the event loop. -/
def handle (self : Launching) (env : Env) (os : Os) : LaunchEvent → Launching × List Launch
  | .ipc (.command cmd) => self.handleCommand env os cmd
  | .ipc message => self.quietly env (.ipc message)
  | .idleTick => self.quietly env .idleTick
  | .terminate => self.quietly env (.signal .terminate)
  | .reloadConfig => self.quietly env (.signal .reloadConfig)
  | .reapChildren children => forEach handleCompositorExit self children

/-! ## What the daemon sees of it -/

end Launching

/-- The program an effect says was started. -/
def Effect.started : Effect → Option (SessionId × Program)
  | .spawn id program true => some (id, program)
  | _ => none

def Launch.started (self : Launch) : SessionId × Program :=
  (self.sessionId, self.program)

/-- The same event, as `Daemon` has it. -/
inductive LaunchEvent.Is : LaunchEvent → DaemonEvent → Prop
  | ipc (message : ManagerMessage) : Is (.ipc message) (.ipc message)
  | idleTick : Is .idleTick .idleTick
  | terminate : Is .terminate (.signal .terminate)
  | reloadConfig : Is .reloadConfig (.signal .reloadConfig)
  | reapChildren {children : List (Pid × Os)} {reaped : List Daemon.ReapedChild}
      (h : reaped.map Daemon.ReapedChild.pid = children.map Prod.fst) :
      Is (.reapChildren children) (.signal (.reapChildren reaped))

namespace Launching

variable {l l' : Launching} {env : Env} {os : Os}

theorem trySpawnCompositor_refines (l : Launching) (os : Os) (id : SessionId) :
    ∃ spawned, (l.trySpawnCompositor os id).1.daemon = (l.daemon.trySpawnCompositor spawned id).1
      ∧ (l.daemon.trySpawnCompositor spawned id).2.filterMap Effect.started
        = (l.trySpawnCompositor os id).2.map Launch.started := by
  cases hget : l.daemon.sessions.get id with
  | error e => exact ⟨.error e, by simp [trySpawnCompositor, Daemon.trySpawnCompositor, hget]⟩
  | ok ctx =>
      simp only [trySpawnCompositor, hget]
      refine ⟨_, rfl, ?_⟩
      simp only [Daemon.trySpawnCompositor, hget]
      cases spawnCompositor ctx.user (l.environments id)
          l.daemon.settings.session.compositorBinary os with
      | error e => rfl
      | ok started => rfl

theorem createSession_refines (l : Launching) (env : Env) (os : Os) (userName : String)
    (seatId sessionType : Option String) :
    ∃ spawned,
      (l.createSession env os userName seatId sessionType).1.daemon
          = (l.daemon.createSession { env with spawned } userName seatId sessionType).daemon
        ∧ (l.daemon.createSession { env with spawned } userName seatId
            sessionType).effects.filterMap Effect.started
          = (l.createSession env os userName seatId sessionType).2.map Launch.started := by
  cases huser : env.userByName userName with
  | error e => exact ⟨env.spawned, by simp [createSession, Daemon.createSession, huser]⟩
  | ok user =>
      have hkind : (if sessionType = some "x11" then SessionType.x11
          else if sessionType = some "tty" then SessionType.tty
          else (SessionPolicy.from l.daemon.settings.session).defaultSessionType)
        = requestedType l.daemon.settings.session sessionType := rfl
      simp only [createSession, Daemon.createSession, huser, hkind]
      generalize requestedType l.daemon.settings.session sessionType = kind
      split
      · rename_i hcreated
        exact ⟨env.spawned, by simp [hcreated]⟩
      · rename_i id hcreated
        simp only [hcreated]
        by_cases hkind : kind ≠ .tty
        · simp only [if_pos hkind]
          exact trySpawnCompositor_refines _ os id
        · exact ⟨env.spawned, by simp [hkind]⟩

theorem replaceCompositor_refines (l : Launching) (os : Os) (id : SessionId) (restarts : ℕ) :
    ∃ respawned, (l.replaceCompositor os id restarts).1.daemon
          = (l.daemon.replaceCompositor id restarts respawned).1
      ∧ (l.daemon.replaceCompositor id restarts respawned).2.filterMap Effect.started
        = (l.replaceCompositor os id restarts).2.map Launch.started := by
  unfold replaceCompositor Daemon.replaceCompositor
  cases decideRestart restarts l.daemon.maxRestarts with
  | restart => exact trySpawnCompositor_refines _ os id
  | fallbackToTerminal =>
      dsimp only
      cases hget : l.daemon.sessions.get id with
      | error e => exact ⟨.error e, rfl, rfl⟩
      | ok ctx =>
          dsimp only
          cases spawnFallbackTerminal ctx.user (l.environments id) os with
          | error e => exact ⟨.error e, rfl, rfl⟩
          | ok started => exact ⟨.ok started.2, rfl, rfl⟩

theorem handleCompositorExit_refines (l : Launching) (child : Pid × Os) :
    ∃ respawned,
      (l.handleCompositorExit child).1.daemon
          = (l.daemon.handleCompositorExit ⟨child.1, respawned⟩).1
        ∧ (l.daemon.handleCompositorExit ⟨child.1, respawned⟩).2.filterMap Effect.started
          = (l.handleCompositorExit child).2.map Launch.started := by
  cases hfind : l.daemon.sessions.sessions.entries.find? fun e =>
      e.2.compositorProcess = some child.1 with
  | none =>
      exact ⟨.ok 0, by simp [handleCompositorExit, Daemon.handleCompositorExit, hfind]⟩
  | some entry =>
      simp only [handleCompositorExit, hfind]
      obtain ⟨respawned, hdaemon, hstarted⟩ := replaceCompositor_refines
        { l with daemon := _ } child.2 entry.2.id entry.2.compositorRestarts
      refine ⟨respawned, hdaemon.trans ?_, Eq.trans ?_ hstarted⟩
      · unfold Daemon.handleCompositorExit
        rw [hfind]
        rfl
      · unfold Daemon.handleCompositorExit
        rw [hfind]
        rfl

theorem reapChildren_refines (l : Launching) (children : List (Pid × Os)) :
    ∃ reaped : List Daemon.ReapedChild,
      reaped.map Daemon.ReapedChild.pid = children.map Prod.fst
      ∧ (forEach handleCompositorExit l children).1.daemon
          = (l.daemon.reapChildren reaped).1
      ∧ (l.daemon.reapChildren reaped).2.filterMap Effect.started
          = (forEach handleCompositorExit l children).2.map Launch.started := by
  induction children generalizing l with
  | nil => exact ⟨[], rfl, rfl, rfl⟩
  | cons child rest ih =>
      obtain ⟨respawned, hdaemon, hstarted⟩ := handleCompositorExit_refines l child
      obtain ⟨reaped, hpids, hdaemon', hstarted'⟩ := ih (l.handleCompositorExit child).1
      rw [hdaemon] at hdaemon' hstarted'
      refine ⟨⟨child.1, respawned⟩ :: reaped, by rw [List.map_cons, hpids]; rfl, hdaemon', ?_⟩
      rw [Daemon.reapChildren, forEach_cons, forEach_cons, List.filterMap_append, List.map_append,
        hstarted]
      exact congrArg (_ ++ ·) hstarted'

theorem started_of_about {topics : List Topic} {effects : List Effect}
    (h : About topics effects) (hnot : .process ∉ topics) :
    effects.filterMap Effect.started = [] := by
  rw [List.filterMap_eq_nil_iff]
  intro e he
  cases e with
  | spawn id program started => exact absurd (h _ he) hnot
  | _ => rfl

theorem createSession_of_topics {request : Request} (h : .process ∈ request.topics) :
    ∃ userName seatId sessionType, request = .createSession userName seatId sessionType := by
  cases request with
  | createSession userName seatId sessionType => exact ⟨_, _, _, rfl⟩
  | _ => simp [Request.topics] at h

/-- A handler that starts nothing is the daemon's. -/
theorem quietly_refines (l : Launching) (env : Env) (os : Os) {event : LaunchEvent}
    {event' : DaemonEvent} (his : event.Is event')
    (hquiet : l.handle env os event = l.quietly env event') (hnot : .process ∉ event'.topics) :
    ∃ spawned event', event.Is event'
      ∧ (l.handle env os event).1.daemon = (l.daemon.handle { env with spawned } event').1
      ∧ (l.daemon.handle { env with spawned } event').2.filterMap Effect.started
        = (l.handle env os event).2.map Launch.started := by
  rw [hquiet]
  exact ⟨env.spawned, event', his, rfl,
    started_of_about (Daemon.handle_topics l.daemon env event') hnot⟩

theorem handleCommand_refines (l : Launching) (env : Env) (os : Os) (cmd : ManagerCommand) :
    ∃ spawned,
      (l.handleCommand env os cmd).1.daemon
          = (l.daemon.handle { env with spawned } (.ipc (.command cmd))).1
        ∧ (l.daemon.handle { env with spawned } (.ipc (.command cmd))).2.filterMap Effect.started
          = (l.handleCommand env os cmd).2.map Launch.started := by
  have hresponse : ∀ (registry : ConnRegistry) (response : Option Response),
      (response.map (registry.sendResponse cmd.connId)).toList.filterMap Effect.started = [] := by
    intro registry response
    cases response <;> rfl
  unfold handleCommand
  cases hauth : authorize env.userByName cmd.peer cmd.connId cmd.request l.daemon.sessions
      l.daemon.elevation with
  | error e =>
      refine ⟨env.spawned, ?_⟩
      rw [Daemon.handle_rejected hauth]
      exact ⟨rfl, rfl⟩
  | ok u =>
      dsimp only
      split
      · rename_i userName seatId sessionType hrequest
        obtain ⟨spawned, hdaemon, hstarted⟩ :=
          createSession_refines l env os userName seatId sessionType
        refine ⟨spawned, ?_⟩
        have hhandle := @Daemon.handle_authorized l.daemon { env with spawned } cmd hauth
        rw [hhandle, hrequest]
        refine ⟨hdaemon, ?_⟩
        rw [List.filterMap_append, hresponse, List.append_nil]
        exact hstarted
      · rename_i hother
        refine ⟨env.spawned, rfl, started_of_about (Daemon.handle_topics l.daemon env _) ?_⟩
        intro hprocess
        obtain ⟨userName, seatId, sessionType, hrequest⟩ :=
          createSession_of_topics (List.mem_of_ne_of_mem (by simp) hprocess)
        exact hother _ _ _ hrequest

/-- **Refinement.** -/
theorem handle_refines (l : Launching) (env : Env) (os : Os) (event : LaunchEvent) :
    ∃ spawned event', event.Is event'
      ∧ (l.handle env os event).1.daemon = (l.daemon.handle { env with spawned } event').1
      ∧ (l.daemon.handle { env with spawned } event').2.filterMap Effect.started
        = (l.handle env os event).2.map Launch.started := by
  match event with
  | .ipc (.command cmd) =>
      obtain ⟨spawned, hdaemon, hstarted⟩ := handleCommand_refines l env os cmd
      exact ⟨spawned, _, .ipc _, hdaemon, hstarted⟩
  | .ipc (.connected connId peer outbox) =>
      exact quietly_refines l env os (.ipc (.connected connId peer outbox)) rfl
        (by simp [DaemonEvent.topics])
  | .ipc (.disconnected connId) =>
      exact quietly_refines l env os (.ipc (.disconnected connId)) rfl
        (by simp [DaemonEvent.topics])
  | .idleTick => exact quietly_refines l env os .idleTick rfl (by simp [DaemonEvent.topics])
  | .terminate => exact quietly_refines l env os .terminate rfl (by simp [DaemonEvent.topics])
  | .reloadConfig =>
      exact quietly_refines l env os .reloadConfig rfl (by simp [DaemonEvent.topics])
  | .reapChildren children =>
      obtain ⟨reaped, hpids, hdaemon, hstarted⟩ := reapChildren_refines l children
      exact ⟨env.spawned, _, .reapChildren hpids, hdaemon, hstarted⟩

end Launching

namespace Daemon

/-! ## Accounts of sessions -/

/-- The account a session was created for. -/
def userOf (self : Daemon) (s : SessionId) : Option User :=
  (self.sessions.sessions.lookup s).map SessionContext.user

/-- Every session afterwards is one from before, for the same account. -/
def KeepsUsers (d : Daemon) (_ : List Effect) (d' : Daemon) : Prop :=
  ∀ s user, d'.userOf s = some user → d.userOf s = some user

theorem keepsUsers_seqClosed : SeqClosed KeepsUsers where
  refl := fun _ _ _ huser => huser
  trans := fun h h' s user huser => h s user (h' s user huser)

variable {cause : Option ManagerCommand} {d d' : Daemon} {env : Env} {effects : List Effect}

theorem userOf_update {k : SessionId} {f : SessionContext → SessionContext}
    (h : d'.sessions = d.sessions.update k f) (hf : ∀ ctx, (f ctx).user = ctx.user)
    (s : SessionId) : d'.userOf s = d.userOf s := by
  rw [userOf, h, SessionManager.update_lookup]
  split
  · rw [Option.map_map]
    exact congrArg (Option.map · _) (funext hf)
  · rfl

theorem KeepsUsers.of_same (h : d'.sessions = d.sessions) : KeepsUsers d effects d' := by
  intro s user huser
  rwa [userOf, h] at huser

theorem KeepsUsers.of_update {k : SessionId} {f : SessionContext → SessionContext}
    (h : d'.sessions = d.sessions.update k f) (hf : ∀ ctx, (f ctx).user = ctx.user) :
    KeepsUsers d effects d' := by
  intro s user huser
  rwa [userOf_update h hf] at huser

theorem transition_user (ctx : SessionContext) (next : SessionState) :
    (ctx.transition next).user = ctx.user := by
  rw [SessionContext.transition_eq]

theorem showLock_keepsUsers (k : SessionId) (reason : LockReason) :
    KeepsUsers d (d.showLock k reason).2 (d.showLock k reason).1 := by
  unfold showLock
  split
  · exact KeepsUsers.of_same rfl
  · exact KeepsUsers.of_update rfl fun ctx => transition_user ctx .locked

theorem registerCompositor_keepsUsers (connId : ConnId) (k : SessionId) :
    KeepsUsers d effects (d.registerCompositor connId k).daemon := by
  unfold registerCompositor
  split
  · exact KeepsUsers.of_same rfl
  · dsimp only
    split
    · exact KeepsUsers.of_update rfl fun ctx => transition_user _ .locked
    · exact KeepsUsers.of_update rfl fun ctx => transition_user _ .active

theorem Change.keepsUsers (h : Change cause d effects d') : KeepsUsers d effects d' := by
  cases h with
  | disconnect conn =>
      intro s user huser
      simp only [userOf, Table.lookup_mapVal, Option.map_map] at huser
      rw [userOf, ← huser]
      refine congrArg (Option.map · _) (funext fun ctx => ?_)
      simp only [Function.comp_apply]
      split
      · rfl
      · rfl
  | restarting k => exact KeepsUsers.of_update rfl fun ctx => transition_user ctx .starting
  | process k f hf => exact KeepsUsers.of_update rfl fun ctx => by rw [hf ctx]
  | erase k =>
      intro s user huser
      simp only [userOf, Table.lookup_erase_eq] at huser
      split at huser
      · cases huser
      · exact huser
  | registerCompositor hcause hrequest hctx hpeer => exact registerCompositor_keepsUsers _ _
  | lock reason hlock =>
      have hlocks : KeepsUsers d [] { d with locks := _ } := KeepsUsers.of_same rfl
      exact keepsUsers_seqClosed.trans hlocks (showLock_keepsUsers _ reason)
  | _ => exact KeepsUsers.of_same rfl

theorem Changes.keepsUsers (h : Changes cause d effects d') : KeepsUsers d effects d' :=
  keepsUsers_seqClosed.chain h fun _ _ _ hchange => hchange.keepsUsers

theorem Acts.keepsUsers (h : Acts d effects d') : KeepsUsers d effects d' := by
  refine keepsUsers_seqClosed.chain h fun d effects d' hact => ?_
  cases hact with
  | change hchange => exact hchange.keepsUsers
  | suspend env => exact KeepsUsers.of_same rfl
  | lose hfound =>
      exact KeepsUsers.of_update (f := fun ctx =>
        { ctx with compositorProcess := none, compositorConn := none }) rfl fun _ => rfl

end Daemon

/-! ## Whose programs are started -/

/-- A program of this account, in this environment: the compositor or the account's shell. -/
structure Launch.Fits (launch : Launch) (user : User) (environment : Environment)
    (binary : String) : Prop where
  runsAs : launch.process.RunsAs user environment launch.os.files
  command : launch.process.command
    = match launch.program with
      | .compositor => binary
      | .fallbackTerminal => user.shell
  args : launch.process.args = []

namespace Launching

variable {l l' : Launching} {env : Env} {os : Os} {launches : List Launch} {launch : Launch}

/-- Programs are started, of sessions that are there and stay, and nothing about these sessions or
the settings changes. -/
structure Starts (l : Launching) (launches : List Launch) (l' : Launching) : Prop where
  environments : l'.environments = l.environments
  settings : l'.daemon.settings = l.daemon.settings
  users : l'.daemon.userOf = l.daemon.userOf
  launches : ∀ launch ∈ launches, ∃ user, l.daemon.userOf launch.sessionId = some user
    ∧ launch.Fits user (l.environments launch.sessionId)
      l.daemon.settings.session.compositorBinary

theorem Starts.of_update {k : SessionId} {f : SessionContext → SessionContext} {d' : Daemon}
    (hsettings : d'.settings = l.daemon.settings) (h : d'.sessions = l.daemon.sessions.update k f)
    (hf : ∀ ctx, (f ctx).user = ctx.user) : Starts l [] { l with daemon := d' } :=
  ⟨rfl, hsettings, funext (Daemon.userOf_update h hf), fun _ hlaunch => by cases hlaunch⟩

/-- The event creates session `s`, for an account and with an environment. -/
inductive Creates (l : Launching) (env : Env) (s : SessionId) (account : User × Environment) :
    LaunchEvent → Prop
  | intro {cmd : ManagerCommand} {userName : String} {seatId sessionType : Option String}
      (hauth : authorize env.userByName cmd.peer cmd.connId cmd.request l.daemon.sessions
        l.daemon.elevation = .ok ())
      (hrequest : cmd.request = .createSession userName seatId sessionType)
      (huser : env.userByName userName = .ok account.1)
      (hcreated : (l.daemon.sessions.createSession (env.prepared account.1) env.systemTime account.1
        (seatId.getD l.daemon.settings.seat.defaultSeat)
        (requestedType l.daemon.settings.session sessionType) l.daemon.settings.session).2 = .ok s)
      (henvironment : account.2 = (Environment.forSession account.1 s
        (requestedType l.daemon.settings.session sessionType)
        (seatId.getD l.daemon.settings.seat.defaultSeat)
        l.daemon.settings.session.runtimeDir).1) :
      Creates l env s account (.ipc (.command cmd))

/-- What an event makes of a session: it is created, or was there and stays as it is. -/
def Recorded (l : Launching) (env : Env) (event : LaunchEvent) (l' : Launching) : Prop :=
  ∀ s user, l'.daemon.userOf s = some user →
    Creates l env s (user, l'.environments s) event
      ∨ (∀ account, ¬ Creates l env s account event) ∧ l.daemon.userOf s = some user
        ∧ l'.environments s = l.environments s

/-- The launches are of sessions that are there afterwards. -/
def Launches (l : Launching) (launches : List Launch) (l' : Launching) : Prop :=
  ∀ launch ∈ launches, ∃ user, l'.daemon.userOf launch.sessionId = some user
    ∧ launch.Fits user (l'.environments launch.sessionId)
      l.daemon.settings.session.compositorBinary

theorem Starts.launched (h : Starts l launches l') : Launches l launches l' := by
  intro launch hlaunch
  rw [h.users, h.environments]
  exact h.launches launch hlaunch

/-- What a request for a session asks of the registry. -/
theorem Creates.created {cmd : ManagerCommand} {userName : String}
    {seatId sessionType : Option String} {s : SessionId} {account : User × Environment}
    (h : Creates l env s account (.ipc (.command cmd)))
    (hrequest : cmd.request = .createSession userName seatId sessionType) :
    env.userByName userName = .ok account.1
      ∧ (l.daemon.sessions.createSession (env.prepared account.1) env.systemTime account.1
        (seatId.getD l.daemon.settings.seat.defaultSeat)
        (requestedType l.daemon.settings.session sessionType) l.daemon.settings.session).2
          = .ok s := by
  cases h with
  | intro hauth hrequest' huser hcreated henvironment =>
      obtain ⟨rfl, rfl, rfl⟩ := Request.createSession.inj (hrequest.symm.trans hrequest')
      exact ⟨huser, hcreated⟩

end Launching

/-! ## Runs -/

/-- A handled event with the programs it started, or a change of iteration orders. -/
inductive LaunchLabel where
  | handled (env : Env) (event : LaunchEvent) (launches : List Launch)
  | rehash

/-- The programs a step started. -/
def LaunchLabel.launches : LaunchLabel → List Launch
  | .handled _ _ launches => launches
  | .rehash => []

namespace Launching

variable {l l' l₀ : Launching} {tr : List (Transition Launching LaunchLabel)}

/-- One step of the event loop. -/
inductive Step : Launching → LaunchLabel → Launching → Prop
  | handled (l : Launching) (env : Env) (os : Os) (event : LaunchEvent) :
      Step l (.handled env event (l.handle env os event).2) (l.handle env os event).1
  | rehash {l : Launching} {d' : Daemon} : Daemon.Rehash l.daemon d' →
      Step l .rehash { l with daemon := d' }

/-- The daemon as startup leaves it. -/
def Initial (l : Launching) : Prop :=
  Daemon.Initial l.daemon

/-- **Every run is one of `Daemon`**, with the same programs started. -/
theorem run_daemon (hrun : Run Step l₀ tr l) :
    ∃ tr', Run Daemon.Step l₀.daemon tr' l.daemon
      ∧ tr'.flatMap (fun x => x.label.effects.filterMap Effect.started)
        = tr.flatMap fun x => x.label.launches.map Launch.started := by
  induction hrun with
  | nil => exact ⟨[], Run.nil, rfl⟩
  | @snoc _ s _ _ _ hstep ih =>
      obtain ⟨tr', hrun', hstarted⟩ := ih
      cases hstep with
      | handled env os event =>
          obtain ⟨spawned, event', -, hdaemon, hsame⟩ := handle_refines s env os event
          have hlast := Daemon.Step.handled s.daemon { env with spawned } event'
          rw [← hdaemon] at hlast
          refine ⟨_, hrun'.snoc hlast, ?_⟩
          rw [List.flatMap_append, List.flatMap_append, hstarted, List.flatMap_singleton,
            List.flatMap_singleton]
          exact congrArg (_ ++ ·) hsame
      | rehash hrehash =>
          refine ⟨_, hrun'.snoc (Daemon.Step.rehash hrehash), ?_⟩
          rw [List.flatMap_append, List.flatMap_append, hstarted]
          rfl

/-- Nothing configured but Alice's account, and every program starts. -/
def demoOs : Os where
  files :=
    { fromName := fun name =>
        .ok (if name = "alice" then some ⟨1000, 1000, "alice", "/home/alice", "/bin/sh"⟩ else none)
      readToString := fun _ => .error .notFound }
  own := Credentials.only 0 0 []
  exec _ := .ok 4242

def demo : Launching :=
  { daemon := Daemon.demo }

def demoRequest : LaunchEvent :=
  .ipc (.command (demoCommand 7 1000 (.createSession "alice" none none)))

def demoCreated : Launching :=
  (demo.handle (demoEnv 0) demoOs demoRequest).1

def demoCrash : LaunchEvent :=
  .reapChildren [(4242, demoOs)]

/-- Alice's session is created, and its compositor crashes and is relaunched. -/
def demoTrace : List (Transition Launching LaunchLabel) :=
  [⟨demo, .handled (demoEnv 0) demoRequest (demo.handle (demoEnv 0) demoOs demoRequest).2,
      demoCreated⟩,
    ⟨demoCreated,
      .handled (demoEnv 1) demoCrash (demoCreated.handle (demoEnv 1) demoOs demoCrash).2,
      (demoCreated.handle (demoEnv 1) demoOs demoCrash).1⟩]

end Launching

end MitosSession
