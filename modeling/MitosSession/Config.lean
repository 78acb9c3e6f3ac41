import MitosSession.Basic

set_option autoImplicit false

/-! # Configuration

The shape of `session.toml` (`config/settings.rs`), the values it falls back to
(`config/defaults.rs`) and the loader (`config/loader.rs`). Paths are strings; reading a file and
parsing TOML are the environment's (`ConfigFiles`). -/

namespace MitosSession

/-- `power::PowerBackendKind`. -/
inductive PowerBackendKind where
  | mitosPower
  | direct
  | supervised
deriving DecidableEq

structure SessionSettings where
  runtimeDir : String
  maxSessionsPerUser : ℕ
  defaultSessionType : String
  compositorBinary : String
  maxCompositorRestarts : ℕ
deriving DecidableEq

structure SeatSettings where
  defaultSeat : String
deriving DecidableEq

structure LockSettings where
  enabled : Bool
  lockOnIdle : Bool
  lockOnSuspend : Bool
  gracePeriodSecs : ℕ
  maxAuthAttempts : ℕ
  lockoutSecs : ℕ
deriving DecidableEq

structure IdleSettings where
  dimAfterSecs : ℕ
  lockAfterSecs : ℕ
  suspendAfterSecs : ℕ
deriving DecidableEq

structure AuthSettings where
  pamService : String
  allowEmptyPassword : Bool
deriving DecidableEq

structure ElevationSettings where
  enabled : Bool
  /-- The account whose uid may open elevation prompts, besides root. -/
  serviceUser : String
  pamService : String
  allowEmptyPassword : Bool
  maxAttempts : ℕ
  lockoutSecs : ℕ
  promptTimeoutSecs : ℕ
  maxPendingPerSession : ℕ
deriving DecidableEq

structure PowerSettings where
  allowSuspend : Bool
  allowReboot : Bool
  allowPoweroff : Bool
  suspendInhibitGraceSecs : ℕ
  backend : PowerBackendKind
  mitosPowerSocketPath : String
deriving DecidableEq

structure IpcSettings where
  socketPath : String
  socketMode : ℕ
deriving DecidableEq

structure LoggingSettings where
  level : String
  json : Bool
  auditLogPath : Option String
deriving DecidableEq

/-- `config::Settings`. -/
structure Settings where
  session : SessionSettings
  seat : SeatSettings
  lock : LockSettings
  idle : IdleSettings
  authentication : AuthSettings
  elevation : ElevationSettings
  power : PowerSettings
  ipc : IpcSettings
  logging : LoggingSettings
deriving DecidableEq

/-! ## Defaults -/

instance : Inhabited SessionSettings where
  default :=
    { runtimeDir := "/run/mitos-session"
      maxSessionsPerUser := 4
      defaultSessionType := "wayland"
      compositorBinary := "/usr/bin/mitos-gui"
      maxCompositorRestarts := 3 }

instance : Inhabited SeatSettings where
  default := { defaultSeat := "seat0" }

instance : Inhabited LockSettings where
  default :=
    { enabled := true
      lockOnIdle := true
      lockOnSuspend := true
      gracePeriodSecs := 5
      maxAuthAttempts := 3
      lockoutSecs := 30 }

instance : Inhabited IdleSettings where
  default := { dimAfterSecs := 60, lockAfterSecs := 300, suspendAfterSecs := 600 }

instance : Inhabited AuthSettings where
  default := { pamService := "mitos-session", allowEmptyPassword := false }

instance : Inhabited ElevationSettings where
  default :=
    { enabled := true
      serviceUser := "mitos-service"
      pamService := "mitos-elevate"
      allowEmptyPassword := false
      maxAttempts := 3
      lockoutSecs := 30
      promptTimeoutSecs := 120
      maxPendingPerSession := 3 }

instance : Inhabited PowerSettings where
  default :=
    { allowSuspend := true
      allowReboot := true
      allowPoweroff := true
      suspendInhibitGraceSecs := 2
      backend := .mitosPower
      mitosPowerSocketPath := "/run/mitos/power.sock" }

instance : Inhabited IpcSettings where
  default := { socketPath := "/run/mitos-session/session.sock", socketMode := 0o660 }

instance : Inhabited LoggingSettings where
  default :=
    { level := "info"
      json := false
      auditLogPath := some "/var/log/mitos/session-audit.log" }

instance : Inhabited Settings where
  default :=
    { session := default
      seat := default
      lock := default
      idle := default
      authentication := default
      elevation := default
      power := default
      ipc := default
      logging := default }

/-! ## The loader -/

/-- What the loader reads from outside: `$MITOS_SESSION_CONFIG`, the file system and the TOML
    parser. -/
structure ConfigFiles where
  configVar : Option String
  fileExists : String → Bool
  readToString : String → Result String
  fromToml : String → Result Settings

def systemConfigPath : String := "/etc/mitos/session.toml"

/-- Which file `config::load` reads: the explicit path, the environment variable, the system
    path. -/
def configPath (files : ConfigFiles) (explicitPath : Option String) : String :=
  (explicitPath.orElse fun _ => files.configVar).getD systemConfigPath

/-- `config::load`. A missing file is not an error: it means the defaults. -/
def load (files : ConfigFiles) (explicitPath : Option String) : Result Settings :=
  let path := configPath files explicitPath
  if !files.fileExists path then
    .ok default
  else do
    let raw ← files.readToString path
    files.fromToml raw

end MitosSession
