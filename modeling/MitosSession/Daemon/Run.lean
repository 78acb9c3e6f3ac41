import MitosSession.Library.Run
import MitosSession.Daemon

set_option autoImplicit false

/-! # Runs of the daemon

The event loop of `run` as a labelled transition system. A step handles one event: an IPC message,
an idle tick or a signal, in whatever system (`Env`) it finds. Between two events the hash maps may
change their iteration order (`Daemon.Rehash`). The loop of `run` ends once `should_exit` is set;
the runs here may go on, which only adds behaviours.

`System` adds what the connection threads guarantee (`ipc/server.rs`): a connection id is announced
once by `Connected`, keeps the credentials it was announced with, sends commands only after that
and nothing after `Disconnected`. -/

namespace MitosSession

/-- What the event loop hands to the daemon. -/
inductive DaemonEvent where
  | ipc (message : ManagerMessage)
  | idleTick
  | signal (event : Daemon.SignalEvent)

/-- The label of a step: the event handled, where, and with which effects; or a change of
    iteration order. -/
inductive DaemonLabel where
  | handled (env : Env) (event : DaemonEvent) (effects : List Effect)
  | rehash

namespace DaemonLabel

/-- The effects of the step, in order. -/
def effects : DaemonLabel → List Effect
  | .handled _ _ effects => effects
  | .rehash => []

/-- The command the step handled, if it handled one. -/
def command : DaemonLabel → Option ManagerCommand
  | .handled _ (.ipc (.command cmd)) _ => some cmd
  | _ => none

/-- The step handled a command from `c`. -/
def isCommandFrom (c : ConnId) (l : DaemonLabel) : Bool :=
  l.command.any fun cmd => cmd.connId = c

theorem event_of_command {env : Env} {event : DaemonEvent} {effects : List Effect}
    {cmd : ManagerCommand} (h : (handled env event effects).command = some cmd) :
    event = .ipc (.command cmd) := by
  unfold command at h
  split at h
  · rename_i heq
    cases heq
    obtain rfl := Option.some.inj h
    rfl
  · cases h

end DaemonLabel

namespace Daemon

/-- The callbacks of the event loop. -/
def handle (self : Daemon) (env : Env) : DaemonEvent → Daemon × List Effect
  | .ipc message => self.handleIpc env message
  | .idleTick => self.onIdleTick env
  | .signal event => self.onSignal env event

/-- The same daemon under two iteration orders of its hash maps. -/
structure Rehash (d d' : Daemon) : Prop where
  sessions : SessionManager.Rehash d.sessions d'.sessions
  seats : SeatManager.Rehash d.seats d'.seats
  locks : LockManager.Rehash d.locks d'.locks
  idle : IdleDetector.Rehash d.idle d'.idle
  registry : ConnRegistry.Rehash d.registry d'.registry
  elevation : ElevationManager.Rehash d.elevation d'.elevation
  settings : d'.settings = d.settings
  authenticator : d'.authenticator = d.authenticator
  powerBackend : d'.powerBackend = d.powerBackend
  socketPath : d'.socketPath = d.socketPath
  shouldExit : d'.shouldExit = d.shouldExit

/-- One step of the event loop. -/
inductive Step : Daemon → DaemonLabel → Daemon → Prop
  | handled (d : Daemon) (env : Env) (event : DaemonEvent) :
      Step d (.handled env event (d.handle env event).2) (d.handle env event).1
  | rehash {d d' : Daemon} : Rehash d d' → Step d .rehash d'

/-- A daemon as startup leaves it. -/
def Initial (d : Daemon) : Prop :=
  ∃ env configArg devices, start env configArg devices = .ok d

def Reachable (d : Daemon) : Prop :=
  ∃ d₀ tr, Initial d₀ ∧ Run Step d₀ tr d

theorem Reachable.step {d d' : Daemon} {l : DaemonLabel} (h : Reachable d) (hstep : Step d l d') :
    Reachable d' := by
  obtain ⟨d₀, tr, h₀, hrun⟩ := h
  exact ⟨d₀, _, h₀, hrun.snoc hstep⟩

/-- Startup leaves everything but the settings, the default seat and the requester's uid empty. -/
theorem Initial.eq {d : Daemon} (h : Initial d) :
    ∃ settings seats authenticator uid powerBackend socketPath,
      d = { settings, seats, authenticator, powerBackend, socketPath
            elevation := { requesterUid := uid } } := by
  obtain ⟨env, configArg, devices, hstart⟩ := h
  unfold start at hstart
  cases hload : load env.config configArg with
  | error e => simp [hload, bind, Except.bind] at hstart
  | ok settings =>
      simp only [hload, bind, Except.bind, pure, Except.pure, Except.ok.injEq] at hstart
      exact ⟨_, _, _, _, _, _, hstart.symm⟩

/-- An invariant of the daemon: it holds after startup, every event keeps it and so does every
    change of iteration order. -/
theorem Reachable.invariant {I : Daemon → Prop} {d : Daemon} (h : Reachable d)
    (hinit : ∀ d, Initial d → I d) (hhandle : ∀ d env event, I d → I (d.handle env event).1)
    (hrehash : ∀ d d', I d → Rehash d d' → I d') : I d := by
  obtain ⟨d₀, tr, h₀, hrun⟩ := h
  refine hrun.invariant (hinit d₀ h₀) fun d l d' hI hstep => ?_
  cases hstep with
  | handled env event => exact hhandle _ env event hI
  | rehash hr => exact hrehash _ _ hI hr

end Daemon

/-! ## The daemon and its connections -/

/-- Where a connection id stands. -/
inductive ConnStatus where
  | fresh
  | open (peer : PeerCred)
  | closed
deriving DecidableEq

/-- The connection is open. -/
def ConnStatus.isOpen : ConnStatus → Bool
  | .open _ => true
  | _ => false

/-- The daemon, and the status of every connection id. -/
structure System where
  daemon : Daemon
  conns : ConnId → ConnStatus

namespace System

/-- Which events the connection threads can produce. -/
def admits (conns : ConnId → ConnStatus) : DaemonEvent → Prop
  | .ipc (.connected connId _ _) => conns connId = .fresh
  | .ipc (.command cmd) => conns cmd.connId = .open cmd.peer
  | .ipc (.disconnected connId) => (conns connId).isOpen = true
  | .idleTick => True
  | .signal _ => True

instance (conns : ConnId → ConnStatus) (event : DaemonEvent) : Decidable (admits conns event) :=
  match event with
  | .ipc (.connected connId _ _) => inferInstanceAs (Decidable (conns connId = .fresh))
  | .ipc (.command cmd) => inferInstanceAs (Decidable (conns cmd.connId = .open cmd.peer))
  | .ipc (.disconnected connId) => inferInstanceAs (Decidable ((conns connId).isOpen = true))
  | .idleTick => inferInstanceAs (Decidable True)
  | .signal _ => inferInstanceAs (Decidable True)

/-- The connections after an event. -/
def track (conns : ConnId → ConnStatus) : DaemonEvent → ConnId → ConnStatus
  | .ipc (.connected connId peer _) => Function.update conns connId (.open peer)
  | .ipc (.disconnected connId) => Function.update conns connId .closed
  | _ => conns

/-- One step of the event loop, fed by the connection threads. -/
inductive Step : System → DaemonLabel → System → Prop
  | handled (sys : System) (env : Env) (event : DaemonEvent) (h : admits sys.conns event) :
      Step sys (.handled env event (sys.daemon.handle env event).2)
        { daemon := (sys.daemon.handle env event).1, conns := track sys.conns event }
  | rehash (sys : System) {d' : Daemon} (h : Daemon.Rehash sys.daemon d') :
      Step sys .rehash { sys with daemon := d' }

/-- The daemon as startup leaves it, before any connection. -/
def Initial (sys : System) : Prop :=
  Daemon.Initial sys.daemon ∧ sys.conns = fun _ => .fresh

def Reachable (sys : System) : Prop :=
  ∃ sys₀ tr, Initial sys₀ ∧ Run Step sys₀ tr sys

/-- What the daemon sees of a transition. -/
def toDaemon (x : Transition System DaemonLabel) : Transition Daemon DaemonLabel :=
  ⟨x.pre.daemon, x.label, x.post.daemon⟩

theorem Step.daemon {sys sys' : System} {l : DaemonLabel} (h : Step sys l sys') :
    Daemon.Step sys.daemon l sys'.daemon := by
  cases h with
  | handled env event _ => exact Daemon.Step.handled _ env event
  | rehash hr => exact Daemon.Step.rehash hr

/-- A run of the system is a run of the daemon. -/
theorem run_daemon {sys sys' : System} {tr : List (Transition System DaemonLabel)}
    (h : Run Step sys tr sys') : Run Daemon.Step sys.daemon (tr.map toDaemon) sys'.daemon := by
  induction h with
  | nil => exact Run.nil
  | snoc _ hstep ih =>
      rw [List.map_append, List.map_singleton]
      exact ih.snoc hstep.daemon

theorem reachable_daemon {sys₀ sys : System} {tr : List (Transition System DaemonLabel)}
    (hinit : Initial sys₀) (hrun : Run Step sys₀ tr sys) : Daemon.Reachable sys.daemon :=
  ⟨sys₀.daemon, _, hinit.1, run_daemon hrun⟩

/-! ## Replaying events -/

/-- The events can follow each other. -/
def Admitted (conns : ConnId → ConnStatus) : List (Env × DaemonEvent) → Prop
  | [] => True
  | e :: rest => admits conns e.2 ∧ Admitted (track conns e.2) rest

instance decidableAdmitted : (conns : ConnId → ConnStatus) → (events : List (Env × DaemonEvent)) →
    Decidable (Admitted conns events)
  | _, [] => inferInstanceAs (Decidable True)
  | conns, e :: rest =>
    have := decidableAdmitted (track conns e.2) rest
    inferInstanceAs (Decidable (admits conns e.2 ∧ Admitted (track conns e.2) rest))

/-- The system after one event. -/
def next (sys : System) (e : Env × DaemonEvent) : System :=
  { daemon := (sys.daemon.handle e.1 e.2).1, conns := track sys.conns e.2 }

/-- The system after a list of events. -/
def replay (sys : System) (events : List (Env × DaemonEvent)) : System :=
  events.foldl next sys

/-- The transitions a list of events makes. -/
def transitions : System → List (Env × DaemonEvent) → List (Transition System DaemonLabel)
  | _, [] => []
  | sys, e :: rest =>
    ⟨sys, .handled e.1 e.2 (sys.daemon.handle e.1 e.2).2, sys.next e⟩
      :: transitions (sys.next e) rest

theorem run_replay {sys : System} {events : List (Env × DaemonEvent)}
    (h : Admitted sys.conns events) :
    Run Step sys (transitions sys events) (sys.replay events) := by
  induction events generalizing sys with
  | nil => exact Run.nil
  | cons e rest ih =>
      have hrest : Run Step (sys.next e) (transitions (sys.next e) rest) _ := ih h.2
      exact (Run.single (Step.handled sys e.1 e.2 h.1)).append hrest

end System

/-! ## A concrete system -/

/-- A system with three accounts, nothing configured, where everything asked of it works. -/
def demoEnv (now : Instant) : Env where
  now
  systemTime := 0
  userByName name :=
    if name = "alice" then .ok ⟨1000, 1000, "alice", "/home/alice", "/bin/sh"⟩
    else if name = "bob" then .ok ⟨1001, 1001, "bob", "/home/bob", "/bin/sh"⟩
    else if name = "mitos-service" then .ok ⟨900, 900, "mitos-service", "/", "/bin/false"⟩
    else .error (.unknownUser name)
  shadow := none
  prepared _ := .ok ()
  spawned := .ok 4242
  pam := PamStack.knowing [("alice", "hunter2"), ("bob", "swordfish")]
  power _ _ := .ok ()
  config :=
    { configVar := none
      fileExists := fun _ => false
      readToString := fun _ => .error (.io "not found")
      fromToml := fun _ => .error (.config "not TOML") }

/-- A command on connection `connId` from a process of user `uid`. -/
def demoCommand (connId : ConnId) (uid : ℕ) (request : Request) : ManagerCommand :=
  { connId, peer := { uid, gid := uid, pid := 1 }, request }

/-- Connection `connId` opens, from a process of user `uid`. -/
def demoConnect (connId : ConnId) (uid : ℕ) : DaemonEvent :=
  .ipc (.connected connId { uid, gid := uid, pid := 1 } {})

namespace Daemon

/-- The daemon after a list of events, each in its own system. -/
def replay (self : Daemon) (events : List (Env × DaemonEvent)) : Daemon :=
  events.foldl (fun d e => (d.handle e.1 e.2).1) self

theorem Reachable.replay {d : Daemon} (h : Reachable d) (events : List (Env × DaemonEvent)) :
    Reachable (d.replay events) := by
  induction events generalizing d with
  | nil => exact h
  | cons e rest ih => exact ih (h.step (Step.handled d e.1 e.2))

/-- The daemon as it starts in `demoEnv`. -/
def demo : Daemon :=
  { Daemon.new (demoEnv 0) default with
    seats := ({} : SeatManager).ensureSeat "seat0" fun seat => seat }

theorem demo_initial : Initial demo :=
  ⟨demoEnv 0, none, none, rfl⟩

theorem demo_reachable : Reachable demo :=
  ⟨demo, [], demo_initial, Run.nil⟩

/-- Alice's session 1, with its compositor on connection 7. -/
def demoActive : Daemon :=
  demo.replay
    [(demoEnv 0, demoConnect 7 1000),
      (demoEnv 0, .ipc (.command (demoCommand 7 1000 (.createSession "alice" none none)))),
      (demoEnv 0, .ipc (.command (demoCommand 7 1000 (.registerCompositor 1))))]

theorem demoActive_reachable : Reachable demoActive :=
  demo_reachable.replay _

/-- The same, locked by her. -/
def demoLocked : Daemon :=
  demoActive.replay [(demoEnv 0, .ipc (.command (demoCommand 7 1000 (.lockSession 1))))]

theorem demoLocked_reachable : Reachable demoLocked :=
  demoActive_reachable.replay _

end Daemon

/-- The demo daemon before any connection. -/
def System.demo : System :=
  { daemon := Daemon.demo, conns := fun _ => .fresh }

theorem System.demo_initial : System.Initial System.demo :=
  ⟨Daemon.demo_initial, rfl⟩

namespace Daemon

/-- The transitions some events make from `demo`. -/
def demoTrace (events : List (Env × DaemonEvent)) : List (Transition Daemon DaemonLabel) :=
  (System.transitions System.demo events).map System.toDaemon

theorem demoTrace_run {events : List (Env × DaemonEvent)}
    (h : System.Admitted System.demo.conns events) :
    Run Step demo (demoTrace events) (System.demo.replay events).daemon :=
  System.run_daemon (System.run_replay h)

/-- Alice's session 1 gets its compositor on connection 7, and then comes something else. -/
def demoThen (later : List (Env × DaemonEvent)) : List (Env × DaemonEvent) :=
  [(demoEnv 0, demoConnect 7 1000),
    (demoEnv 0, .ipc (.command (demoCommand 7 1000 (.createSession "alice" none none)))),
    (demoEnv 0, .ipc (.command (demoCommand 7 1000 (.registerCompositor 1))))] ++ later

end Daemon

end MitosSession
