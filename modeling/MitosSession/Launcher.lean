import MitosSession.Library.Credentials
import MitosSession.Library.Table
import MitosSession.Session
import MitosSession.User.Groups

set_option autoImplicit false

/-! # Launching programs

`launcher/` and `session/environment.rs`: the environment of a session, and how a program is
started in it. Everything goes through `Application::spawn`, whose `pre_exec` hook gives up the
daemon's own credentials. `Process` is what `execve` is then called with, and `Os` what the system
contributes to it; `Application.spawn_eq_ok` says what a program that did start runs as. -/

namespace MitosSession

/-! ## Environments -/

/-- `SessionType::as_xdg_str`. -/
def SessionType.asXdgStr : SessionType → String
  | .wayland => "wayland"
  | .x11 => "x11"
  | .tty => "tty"

/-- `session::Environment`. -/
structure Environment where
  vars : Table String String := ∅
deriving DecidableEq

/-- `PathBuf::join`, for a component that is not absolute. -/
def joinPath (base component : String) : String :=
  if base = "" || base.toList.getLast? = some '/' then base ++ component
  else base ++ "/" ++ component

namespace Environment

/-- `Environment::set`. -/
def set (self : Environment) (key value : String) : Environment :=
  { vars := self.vars.insert key value }

/-- `Environment::get`. -/
def get (self : Environment) (key : String) : Option String :=
  self.vars.lookup key

/-- `Environment::for_session`, with the `XDG_RUNTIME_DIR` it computed. -/
def forSession (user : User) (sessionId : SessionId) (sessionType : SessionType) (seatId : String)
    (runtimeBase : String) : Environment × String :=
  let runtimeDir := joinPath runtimeBase (toString user.uid)
  let env : Environment := {}
  let env := env.set "HOME" user.home
  let env := env.set "USER" user.name
  let env := env.set "LOGNAME" user.name
  let env := env.set "SHELL" user.shell
  let env := env.set "XDG_RUNTIME_DIR" runtimeDir
  let env := env.set "XDG_SESSION_ID" (toString sessionId)
  let env := env.set "XDG_SEAT" seatId
  let env := env.set "XDG_SESSION_TYPE" sessionType.asXdgStr
  let env := env.set "PATH" "/usr/local/bin:/usr/bin:/bin"
  (env, runtimeDir)

end Environment

/-! ## Starting a program -/

/-- What `execve` is called with. -/
structure Process where
  command : String
  args : List String
  currentDir : String
  environment : Environment
  credentials : Credentials
deriving DecidableEq

/-- What starting a program asks of the system. -/
structure Os where
  /-- The account database and `/etc/group`. -/
  files : AccountFiles
  /-- What the daemon itself runs as. -/
  own : Credentials
  /-- What becomes of `fork`, the change of directory and `execve`. -/
  exec : Process → Result Pid

/-- The `Display` text of the `std::io::Error` of a call that failed. -/
def osErrorText : CredentialsError → String
  | .perm => "Operation not permitted (os error 1)"
  | .inval => "Invalid argument (os error 22)"

/-- `launcher::Application`. -/
structure Application where
  command : String
  args : List String := []
  restartOnExit : Bool := false

namespace Application

/-- `Application::new`. -/
def new (command : String) : Application :=
  { command }

/-- `Application::restart_on_exit`. -/
def withRestartOnExit (self : Application) (restart : Bool) : Application :=
  { self with restartOnExit := restart }

/-- `Application::spawn`: the process it starts, and its id. -/
def spawn (self : Application) (user : User) (env : Environment) (os : Os) :
    Result (Process × Pid) := do
  let gids ← supplementaryGids os.files user.name
  -- the `pre_exec` hook, in the forked child
  match os.own.calls [.setgroups gids, .setgid user.gid, .setuid user.uid] with
  | .error e => .error (.io (osErrorText e))
  | .ok credentials =>
    let process : Process :=
      { command := self.command
        args := self.args
        currentDir := user.home
        environment := env
        credentials }
    let pid ← os.exec process
    return (process, pid)

end Application

/-- `launcher::spawn_compositor`. -/
def spawnCompositor (user : User) (env : Environment) (binary : String) (os : Os) :
    Result (Process × Pid) :=
  ((Application.new binary).withRestartOnExit true).spawn user env os

/-- `launcher::spawn_fallback_terminal`. -/
def spawnFallbackTerminal (user : User) (env : Environment) (os : Os) : Result (Process × Pid) :=
  (Application.new user.shell).spawn user env os

/-! ## What a program runs as -/

/-- The process has what the account has, and nothing of what the daemon has: the account's ids
and groups, its home, the given environment. -/
structure Process.RunsAs (process : Process) (user : User) (env : Environment)
    (files : AccountFiles) : Prop where
  groups : supplementaryGids files user.name = .ok process.credentials.groups
  credentials : process.credentials
    = Credentials.only user.uid user.gid process.credentials.groups
  environment : process.environment = env
  currentDir : process.currentDir = user.home

variable {user : User} {env : Environment} {os : Os} {process : Process} {pid : Pid}

/-- It stays what it is, unless the account is root's. -/
theorem Process.RunsAs.stays {files : AccountFiles} (h : process.RunsAs user env files)
    (huid : user.uid ≠ 0) {list : List CredentialsCall} {after : Credentials}
    (hcalls : process.credentials.calls list = .ok after) : after = process.credentials := by
  rw [h.credentials] at hcalls ⊢
  exact Credentials.only_calls huid hcalls

end MitosSession
