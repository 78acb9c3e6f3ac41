import MitosSession.Library.Table
import MitosSession.Config
import MitosSession.User

set_option autoImplicit false

/-! # Sessions

The lifecycle states and their transition table (`session/state.rs`), the per-session record
(`session/context.rs`, `session/session.rs`) and the `SessionManager` registry with the parts of
`session/lifecycle.rs` it drives.

Preparing the home directory and `XDG_RUNTIME_DIR` is file-system work: its verdict is the
parameter `prepared` of `begin`. -/

namespace MitosSession

/-- `session::SessionState`. -/
inductive SessionState where
  | starting
  | active
  | idle
  | locked
  | closing
  | closed
deriving DecidableEq

namespace SessionState

/-- The `Debug` name, which is what `SessionInfo::state` carries. -/
def debug : SessionState → String
  | .starting => "Starting"
  | .active => "Active"
  | .idle => "Idle"
  | .locked => "Locked"
  | .closing => "Closing"
  | .closed => "Closed"

/-- `SessionState::can_transition_to`. -/
def canTransitionTo : SessionState → SessionState → Bool
  | .starting, .active => true
  | .starting, .closing => true
  | .starting, .locked => true
  | .active, .idle => true
  | .active, .locked => true
  | .active, .closing => true
  | .active, .starting => true
  | .idle, .active => true
  | .idle, .locked => true
  | .idle, .closing => true
  | .idle, .starting => true
  | .locked, .active => true
  | .locked, .closing => true
  | .locked, .starting => true
  | .closing, .closed => true
  | _, _ => false

/-- `SessionState::transition`. -/
def transition (self next : SessionState) : Result SessionState :=
  if self.canTransitionTo next then
    .ok next
  else
    .error (.invalidTransition (self.debug ++ " -> " ++ next.debug))

/-- `SessionState::is_locked`. -/
def isLocked : SessionState → Bool
  | .locked => true
  | _ => false

end SessionState

/-- `session::SessionType`. -/
inductive SessionType where
  | wayland
  | x11
  | tty
deriving DecidableEq

/-- `session::Session`. -/
structure Session where
  id : SessionId
  uid : ℕ
  userName : String
  seatId : String
  sessionType : SessionType
  createdAt : ℕ
deriving DecidableEq

/-- `session::SessionContext`. The compositor's process handle is its pid. -/
structure SessionContext where
  session : Session
  user : User
  state : SessionState
  compositorConn : Option ConnId
  compositorProcess : Option Pid
  compositorRestarts : ℕ
deriving DecidableEq

namespace SessionContext

/-- `SessionContext::id`. -/
def id (self : SessionContext) : SessionId :=
  self.session.id

/-- `SessionContext::transition` where the caller discards the result (`let _ =`): a transition
    the table does not allow leaves the state as it was. -/
def transition (self : SessionContext) (next : SessionState) : SessionContext :=
  match self.state.transition next with
  | .ok state => { self with state }
  | .error _ => self

theorem transition_eq (self : SessionContext) (next : SessionState) :
    self.transition next = { self with state := (self.transition next).state } := by
  unfold transition
  split <;> rfl

theorem transition_state (self : SessionContext) (next : SessionState) :
    (self.transition next).state = next ∨ (self.transition next).state = self.state := by
  unfold transition SessionState.transition
  split
  · rename_i state h
    split at h
    · exact Or.inl (Except.ok.inj h).symm
    · cases h
  · exact Or.inr rfl

/-- A transition to another state than `Active` never makes a session active. -/
theorem transition_active {self : SessionContext} {next : SessionState} (h : next ≠ .active)
    (hactive : (self.transition next).state = .active) : self.state = .active := by
  rcases self.transition_state next with hnext | hsame
  · exact absurd (hnext.symm.trans hactive) h
  · exact hsame.symm.trans hactive

@[simp]
theorem transition_compositorConn (self : SessionContext) (next : SessionState) :
    (self.transition next).compositorConn = self.compositorConn := by
  rw [transition_eq]

@[simp]
theorem transition_session (self : SessionContext) (next : SessionState) :
    (self.transition next).session = self.session := by
  rw [transition_eq]

end SessionContext

/-! ## Lifecycle -/

/-- `lifecycle::begin`, given whether the home and runtime directories could be prepared. -/
def begin (prepared : Result Unit) (id : SessionId) (user : User) (seatId : String)
    (sessionType : SessionType) (createdAt : ℕ) : Result SessionContext := do
  prepared
  return {
    session :=
      { id, uid := user.uid, userName := user.name, seatId, sessionType, createdAt }
    user
    state := .starting
    compositorConn := none
    compositorProcess := none
    compositorRestarts := 0 }

theorem begin_eq_ok {prepared : Result Unit} {id : SessionId} {user : User} {seatId : String}
    {sessionType : SessionType} {createdAt : ℕ} {ctx : SessionContext}
    (h : begin prepared id user seatId sessionType createdAt = .ok ctx) :
    ctx.session = { id, uid := user.uid, userName := user.name, seatId, sessionType, createdAt }
      ∧ ctx.state = .starting ∧ ctx.compositorConn = none := by
  unfold begin at h
  cases prepared with
  | error e => simp [bind, Except.bind] at h
  | ok u =>
      simp only [bind, Except.bind, pure, Except.pure, Except.ok.injEq] at h
      subst h
      exact ⟨rfl, rfl, rfl⟩

theorem begin_user {prepared : Result Unit} {id : SessionId} {user : User} {seatId : String}
    {sessionType : SessionType} {createdAt : ℕ} {ctx : SessionContext}
    (h : begin prepared id user seatId sessionType createdAt = .ok ctx) : ctx.user = user := by
  unfold begin at h
  cases prepared with
  | error e => simp [bind, Except.bind] at h
  | ok u =>
      simp only [bind, Except.bind, pure, Except.pure, Except.ok.injEq] at h
      subst h
      rfl

/-! ## The registry -/

/-- `session::SessionManager`. -/
structure SessionManager where
  sessions : Table SessionId SessionContext := ∅
  nextId : SessionId := 1

namespace SessionManager

/-- `SessionManager::create_session`. The id is consumed even if `lifecycle::begin` fails. -/
def createSession (self : SessionManager) (prepared : Result Unit) (createdAt : ℕ) (user : User)
    (seatId : String) (sessionType : SessionType) (settings : SessionSettings) :
    SessionManager × Result SessionId :=
  let existing := wrapU32 (self.sessions.countVal fun c => c.user.uid = user.uid)
  if existing ≥ settings.maxSessionsPerUser then
    (self, .error (.permissionDenied
      (user.name ++ " already has " ++ toString existing ++ " session(s) open (limit "
        ++ toString settings.maxSessionsPerUser ++ ")")))
  else
    let id := self.nextId
    let self := { self with nextId := wrapU32 (id + 1) }
    match begin prepared id user seatId sessionType createdAt with
    | .error e => (self, .error e)
    | .ok ctx => ({ self with sessions := self.sessions.insert id ctx }, .ok id)

/-- `SessionManager::terminate_session`. `lifecycle::end` kills the compositor and closes the
    record, which is dropped here; it never fails. -/
def terminateSession (self : SessionManager) (id : SessionId) : Result SessionManager :=
  match self.sessions.lookup id with
  | some _ => .ok { self with sessions := self.sessions.erase id }
  | none => .error (.unknownSession id)

/-- `SessionManager::get`. -/
def get (self : SessionManager) (id : SessionId) : Result SessionContext :=
  match self.sessions.lookup id with
  | some ctx => .ok ctx
  | none => .error (.unknownSession id)

/-- `SessionManager::get_mut` and a write through the reference it returns. -/
def update (self : SessionManager) (id : SessionId) (f : SessionContext → SessionContext) :
    SessionManager :=
  { self with sessions := self.sessions.modify id f }

/-- `SessionManager::list`. -/
def list (self : SessionManager) : List SessionContext :=
  self.sessions.values

/-- `SessionManager::set_state`. -/
def setState (self : SessionManager) (id : SessionId) (next : SessionState) :
    Result SessionManager := do
  let ctx ← self.get id
  let state ← ctx.state.transition next
  return self.update id fun ctx => { ctx with state }

/-- `SessionManager::owner_uid`. -/
def ownerUid (self : SessionManager) (id : SessionId) : Result ℕ := do
  let ctx ← self.get id
  return ctx.session.uid

/-- The loop `for id in ids { let _ = sessions.terminate_session(id) }` over a snapshot of the
    ids, as `power::reboot`, `power::poweroff` and `graceful_shutdown` run it. -/
def terminateAll (self : SessionManager) : SessionManager :=
  (self.list.map SessionContext.id).foldl (fun self id =>
    match self.terminateSession id with
    | .ok self => self
    | .error _ => self) self

/-- `create_session` fails and enters nothing, though it may spend the next id, or enters a new
    session under it. -/
theorem createSession_cases (self : SessionManager) (prepared : Result Unit) (createdAt : ℕ)
    (user : User) (seatId : String) (sessionType : SessionType) (settings : SessionSettings) :
    let created := self.createSession prepared createdAt user seatId sessionType settings
    (∃ e, created.2 = .error e
        ∧ (created.1 = self ∨ created.1 = { self with nextId := wrapU32 (self.nextId + 1) }))
      ∨ ∃ ctx, wrapU32 (self.sessions.countVal fun c => c.user.uid = user.uid)
          < settings.maxSessionsPerUser
        ∧ begin prepared self.nextId user seatId sessionType createdAt = .ok ctx
        ∧ created = ({ sessions := self.sessions.insert self.nextId ctx
                       nextId := wrapU32 (self.nextId + 1) }, .ok self.nextId) := by
  intro created
  unfold created createSession
  dsimp only
  split
  · exact Or.inl ⟨_, rfl, Or.inl rfl⟩
  · rename_i hroom
    cases begin prepared self.nextId user seatId sessionType createdAt with
    | error e => exact Or.inl ⟨e, rfl, Or.inr rfl⟩
    | ok ctx => exact Or.inr ⟨ctx, Nat.lt_of_not_le hroom, rfl, rfl⟩

theorem update_lookup (self : SessionManager) (id k : SessionId)
    (f : SessionContext → SessionContext) :
    (self.update id f).sessions.lookup k
      = if k = id then (self.sessions.lookup k).map f else self.sessions.lookup k :=
  Table.lookup_modify ..

/-- The same registry under two iteration orders. -/
structure Rehash (m m' : SessionManager) : Prop where
  sessions : Table.Rehash m.sessions m'.sessions
  nextId : m'.nextId = m.nextId

end SessionManager

end MitosSession
