import MitosSession.Session
import MitosSession.Elevation

set_option autoImplicit false

/-! # IPC messages and the connection registry

The wire vocabulary (`ipc/messages.rs`), peer credentials (`ipc/permissions.rs`) and what the
connection threads hand to the daemon (`ipc/server.rs`). `ConnRegistry` maps a live connection to
the sending half of its outbox; what the daemon puts into an outbox is recorded by the `Effect`s
of `Daemon.lean`. -/

namespace MitosSession

/-- `ipc::PeerCred`, as the kernel vouches for it. -/
structure PeerCred where
  uid : ℕ
  gid : ℕ
  pid : ℕ
deriving DecidableEq

/-- `ipc::Request`. -/
inductive Request where
  | createSession (userName : String) (seatId : Option String) (sessionType : Option String)
  | terminateSession (sessionId : SessionId)
  | registerCompositor (sessionId : SessionId)
  | listSessions
  | sessionStatus (sessionId : SessionId)
  | lockSession (sessionId : SessionId)
  | unlock (sessionId : SessionId) (userName password : String)
  | reportActivity (seatId : String)
  | switchSession (seatId : String) (sessionId : SessionId)
  | inhibit (what : InhibitWhat) (who why : String) (mode : InhibitMode)
  | releaseInhibit (inhibitId : ℕ)
  | listInhibitors
  | suspend
  | reboot
  | powerOff
  | requestElevation (sessionId : SessionId) (action : ElevationAction)
  | respondElevation (requestId : ElevationRequestId) (response : ElevationResponse)
deriving DecidableEq

/-- `ipc::SessionInfo`. -/
structure SessionInfo where
  id : SessionId
  uid : ℕ
  userName : String
  seatId : String
  sessionType : SessionType
  state : String
  locked : Bool
  createdAt : ℕ
deriving DecidableEq

/-- `ipc::InhibitorInfo`. -/
structure InhibitorInfo where
  id : ℕ
  what : InhibitWhat
  who : String
  why : String
  mode : InhibitMode
deriving DecidableEq

/-- `ipc::Response`. -/
inductive Response where
  | ok
  | sessions (infos : List SessionInfo)
  | session (info : SessionInfo)
  | authResult (outcome : AuthOutcome)
  | inhibitGranted (inhibitId : ℕ)
  | inhibitors (infos : List InhibitorInfo)
  | error (message : String)
deriving DecidableEq

/-- `ipc::Event`. -/
inductive Event where
  | showLockScreen (sessionId : SessionId) (reason : LockReason)
  | hideLockScreen (sessionId : SessionId)
  | authFeedback (sessionId : SessionId) (outcome : AuthOutcome)
  | dim (seatId : String)
  | undim (seatId : String)
  | prepareForSleep
  | resumedFromSleep
  | sessionActivated (seatId : String) (sessionId : SessionId)
  | showElevationPrompt (requestId : ElevationRequestId) (sessionId : SessionId)
      (action : ElevationAction)
  | elevationFeedback (requestId : ElevationRequestId) (outcome : AuthOutcome)
  | hideElevationPrompt (requestId : ElevationRequestId)
deriving DecidableEq

/-- `ipc::Message`. -/
inductive Message where
  | response (response : Response)
  | event (event : Event)
deriving DecidableEq

/-! ## What reaches the daemon -/

/-- `ipc::ManagerCommand`. -/
structure ManagerCommand where
  connId : ConnId
  peer : PeerCred
  request : Request
deriving DecidableEq

/-- The sending half of a connection's outbox channel. -/
structure OutboxSender where
deriving DecidableEq

/-- `ipc::ManagerMessage`. -/
inductive ManagerMessage where
  | connected (connId : ConnId) (peer : PeerCred) (outbox : OutboxSender)
  | command (cmd : ManagerCommand)
  | disconnected (connId : ConnId)
deriving DecidableEq

/-- `ipc::ConnRegistry`. -/
structure ConnRegistry where
  outboxes : Table ConnId OutboxSender := ∅

namespace ConnRegistry

/-- `ConnRegistry::register`. -/
def register (self : ConnRegistry) (id : ConnId) (outbox : OutboxSender) : ConnRegistry :=
  { outboxes := self.outboxes.insert id outbox }

/-- `ConnRegistry::unregister`. -/
def unregister (self : ConnRegistry) (id : ConnId) : ConnRegistry :=
  { outboxes := self.outboxes.erase id }

/-- Whether a send to `id` reaches an outbox. -/
def knows (self : ConnRegistry) (id : ConnId) : Bool :=
  (self.outboxes.lookup id).isSome

/-- The same registry under two iteration orders. -/
def Rehash (r r' : ConnRegistry) : Prop :=
  Table.Rehash r.outboxes r'.outboxes

theorem knows_register (self : ConnRegistry) (id c : ConnId) (outbox : OutboxSender) :
    (self.register id outbox).knows c = if c = id then true else self.knows c := by
  simp only [knows, register, Table.lookup_insert_eq]
  split <;> rfl

theorem knows_unregister (self : ConnRegistry) (id c : ConnId) :
    (self.unregister id).knows c = if c = id then false else self.knows c := by
  simp only [knows, unregister, Table.lookup_erase_eq]
  split <;> rfl

theorem Rehash.knows_eq {r r' : ConnRegistry} (h : Rehash r r') (c : ConnId) :
    r'.knows c = r.knows c := by
  simp only [knows, Table.Rehash.lookup_eq h]

end ConnRegistry

end MitosSession
