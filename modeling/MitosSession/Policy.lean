import MitosSession.Ipc

set_option autoImplicit false

/-! # Authorization and policy objects

`policy/security_policy.rs`: who may make which request, and the two authentication policies; and
`policy/session_policy.rs`. -/

namespace MitosSession

/-- The `owns` closure of `authorize`. -/
def owns (peer : PeerCred) (sessions : SessionManager) (sessionId : SessionId) : Result Unit :=
  match sessions.ownerUid sessionId with
  | .ok uid =>
    if uid = peer.uid then
      .ok ()
    else
      .error (.permissionDenied
        ("uid " ++ toString peer.uid ++ " does not own session " ++ toString sessionId))
  | .error e => .error e

/-- `policy::authorize`. `userByName` is the account database behind `User::by_name`. -/
def authorize (userByName : String → Result User) (peer : PeerCred) (connId : ConnId)
    (request : Request) (sessions : SessionManager) (elevation : ElevationManager) : Result Unit :=
  if peer.uid = 0 then
    .ok ()
  else
    match request with
    | .createSession userName _ _ =>
      let selfUid := (userByName userName).toOption.map User.uid
      if selfUid = some peer.uid then
        .ok ()
      else
        .error (.permissionDenied "only root may start a session for another user")
    | .terminateSession sessionId => owns peer sessions sessionId
    | .registerCompositor sessionId => owns peer sessions sessionId
    | .sessionStatus sessionId => owns peer sessions sessionId
    | .lockSession sessionId => owns peer sessions sessionId
    | .switchSession _ sessionId => owns peer sessions sessionId
    | .unlock sessionId _ _ => owns peer sessions sessionId
    | .listSessions => .ok ()
    | .reportActivity _ => .ok ()
    | .inhibit _ _ _ _ => .ok ()
    | .releaseInhibit _ => .ok ()
    | .listInhibitors => .ok ()
    | .suspend => .ok ()
    | .reboot => .ok ()
    | .powerOff => .ok ()
    | .requestElevation _ _ =>
      if elevation.isAuthorizedRequester peer.uid then
        .ok ()
      else
        .error (.permissionDenied
          "only the configured elevation service may open an elevation prompt")
    | .respondElevation requestId _ =>
      match elevation.compositorConnFor requestId with
      | some expected =>
        if expected = connId then .ok () else .error (.unknownElevationRequest requestId)
      | none => .error (.unknownElevationRequest requestId)

/-- `policy::auth_policy`. -/
def authPolicy (auth : AuthSettings) (lock : LockSettings) : AuthPolicy :=
  AuthPolicy.new auth lock

/-- `policy::elevation_auth_policy`. -/
def elevationAuthPolicy (elevation : ElevationSettings) : AuthPolicy :=
  { pamService := elevation.pamService
    allowEmptyPassword := elevation.allowEmptyPassword
    maxAttempts := elevation.maxAttempts
    lockout := Duration.fromSecs elevation.lockoutSecs }

/-- `parse_session_type`. -/
def parseSessionType (s : String) : SessionType :=
  if s = "x11" then .x11 else if s = "tty" then .tty else .wayland

/-- `policy::SessionPolicy`. -/
structure SessionPolicy where
  maxSessionsPerUser : ℕ
  defaultSessionType : SessionType
deriving DecidableEq

/-- `SessionPolicy::from`. -/
def SessionPolicy.from (s : SessionSettings) : SessionPolicy :=
  { maxSessionsPerUser := s.maxSessionsPerUser
    defaultSessionType := parseSessionType s.defaultSessionType }

/-! ## What an authorized non-root request says about its peer -/

theorem owns_eq_ok_iff {peer : PeerCred} {sessions : SessionManager} {sessionId : SessionId} :
    owns peer sessions sessionId = .ok () ↔
      ∃ ctx, sessions.sessions.lookup sessionId = some ctx ∧ ctx.session.uid = peer.uid := by
  unfold owns SessionManager.ownerUid SessionManager.get
  cases sessions.sessions.lookup sessionId with
  | none => simp [bind, Except.bind]
  | some ctx =>
      simp only [bind, Except.bind, pure, Except.pure, Option.some.injEq, exists_eq_left']
      split <;> simp_all

/-- The session whose ownership `authorize` asks for. -/
def Request.ownedSession : Request → Option SessionId
  | .terminateSession sessionId => some sessionId
  | .registerCompositor sessionId => some sessionId
  | .sessionStatus sessionId => some sessionId
  | .lockSession sessionId => some sessionId
  | .switchSession _ sessionId => some sessionId
  | .unlock sessionId _ _ => some sessionId
  | _ => none

/-- The requests any locally authenticated user may make. -/
def Request.isOpen : Request → Bool
  | .listSessions | .reportActivity _ | .inhibit _ _ _ _ | .releaseInhibit _ | .listInhibitors
  | .suspend | .reboot | .powerOff => true
  | _ => false

section Authorize

variable {userByName : String → Result User} {peer : PeerCred} {connId : ConnId}
  {request : Request} {sessions : SessionManager} {elevation : ElevationManager}

theorem authorize_open (h : request.isOpen = true) :
    authorize userByName peer connId request sessions elevation = .ok () := by
  cases request with
  | listSessions | reportActivity _ | inhibit _ _ _ _ | releaseInhibit _ | listInhibitors | suspend
  | reboot | powerOff => exact ite_self _
  | _ => cases h

/-- A session is only handed to its owner or to root. -/
theorem authorize_owned {s : SessionId} (hs : request.ownedSession = some s)
    (h : authorize userByName peer connId request sessions elevation = .ok ()) :
    peer.uid = 0 ∨ ∃ ctx, sessions.sessions.lookup s = some ctx ∧ ctx.session.uid = peer.uid := by
  by_cases hroot : peer.uid = 0
  · exact Or.inl hroot
  · right
    rw [← owns_eq_ok_iff]
    cases request <;> simp only [Request.ownedSession, Option.some.injEq, reduceCtorEq] at hs <;>
    · subst hs
      simpa only [authorize, if_neg hroot] using h

/-- A prompt is only opened for the configured requester or for root. -/
theorem authorize_requestElevation {s : SessionId} {action : ElevationAction}
    (h : authorize userByName peer connId (.requestElevation s action) sessions elevation
      = .ok ()) :
    peer.uid = 0 ∨ elevation.requesterUid = some peer.uid := by
  by_cases hroot : peer.uid = 0
  · exact Or.inl hroot
  · right
    simp only [authorize, if_neg hroot] at h
    split at h
    · rename_i hreq
      simpa [ElevationManager.isAuthorizedRequester] using hreq
    · cases h

/-- A prompt is only answered by the compositor it was shown on, or by root. -/
theorem authorize_respondElevation {id : ElevationRequestId} {response : ElevationResponse}
    (h : authorize userByName peer connId (.respondElevation id response) sessions elevation
      = .ok ()) :
    peer.uid = 0
      ∨ ∃ p, elevation.pending.lookup id = some p ∧ p.compositorConn = connId := by
  by_cases hroot : peer.uid = 0
  · exact Or.inl hroot
  · right
    simp only [authorize, if_neg hroot, ElevationManager.compositorConnFor] at h
    cases hp : elevation.pending.lookup id with
    | none => simp [hp] at h
    | some p =>
        refine ⟨p, rfl, ?_⟩
        by_contra hne
        simp [hp, hne] at h

end Authorize

end MitosSession
