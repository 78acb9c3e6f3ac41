import MitosSession.Library.Loop
import MitosSession.Lock

set_option autoImplicit false

/-! # Elevation prompts

The three-party elevation flow (`elevation/`): what a requester may ask to be shown
(`ElevationAction`), and the `ElevationManager` that owns the open prompts, the per-session attempt
and lockout record, and both kinds of timers. -/

namespace MitosSession

/-! ## Actions -/

/-- `elevation::ElevationRisk`. -/
inductive ElevationRisk where
  | elevated
  | critical
deriving DecidableEq

/-- `elevation::ElevationAction`. -/
structure ElevationAction where
  requestingApp : String
  description : String
  risk : ElevationRisk
  durationLabel : String
deriving DecidableEq

/-- `elevation::MAX_LABEL_LEN`, in bytes. -/
def maxLabelLen : ℕ := 256

/-- `ElevationAction::validate`. -/
def ElevationAction.validate (self : ElevationAction) : Except String Unit :=
  if self.requestingApp.isEmpty then
    .error "requesting_app must not be empty"
  else if self.requestingApp.utf8ByteSize > maxLabelLen then
    .error "requesting_app exceeds the maximum label length"
  else if self.description.isEmpty then
    .error "description must not be empty"
  else if self.description.utf8ByteSize > maxLabelLen then
    .error "description exceeds the maximum label length"
  else if self.durationLabel.utf8ByteSize > maxLabelLen then
    .error "duration_label exceeds the maximum label length"
  else
    .ok ()

/-- `elevation::ElevationResponse`. -/
inductive ElevationResponse where
  | password (password : String)
  | cancelled
deriving DecidableEq

/-! ## Policy, timers and records -/

/-- `elevation::ElevationPolicy`. -/
structure ElevationPolicy where
  enabled : Bool
  promptTimeout : Duration
  maxPendingPerSession : ℕ
deriving DecidableEq

/-- `ElevationPolicy::from`. -/
def ElevationPolicy.from (s : ElevationSettings) : ElevationPolicy :=
  { enabled := s.enabled
    promptTimeout := Duration.fromSecs s.promptTimeoutSecs
    maxPendingPerSession := s.maxPendingPerSession }

/-- `elevation::ElevationTimeouts`. -/
structure ElevationTimeouts where
  promptExpiry : Table ElevationRequestId Instant := ∅
  lockoutExpiry : Table SessionId Instant := ∅

namespace ElevationTimeouts

/-- `ElevationTimeouts::start_prompt`. -/
def startPrompt (self : ElevationTimeouts) (id : ElevationRequestId) (now : Instant)
    (timeout : Duration) : ElevationTimeouts :=
  { self with promptExpiry := self.promptExpiry.insert id (now + timeout) }

/-- `ElevationTimeouts::cancel_prompt`. -/
def cancelPrompt (self : ElevationTimeouts) (id : ElevationRequestId) : ElevationTimeouts :=
  { self with promptExpiry := self.promptExpiry.erase id }

/-- `ElevationTimeouts::expired_prompts`. -/
def expiredPrompts (self : ElevationTimeouts) (now : Instant) :
    List ElevationRequestId × ElevationTimeouts :=
  let drained := drainExpired self.promptExpiry now
  (drained.1, { self with promptExpiry := drained.2 })

/-- `ElevationTimeouts::start_lockout`. -/
def startLockout (self : ElevationTimeouts) (session : SessionId) (now : Instant)
    (lockout : Duration) : ElevationTimeouts :=
  { self with lockoutExpiry := self.lockoutExpiry.insert session (now + lockout) }

/-- `ElevationTimeouts::expired_lockouts`. -/
def expiredLockouts (self : ElevationTimeouts) (now : Instant) :
    List SessionId × ElevationTimeouts :=
  let drained := drainExpired self.lockoutExpiry now
  (drained.1, { self with lockoutExpiry := drained.2 })

end ElevationTimeouts

/-- `elevation::manager::SessionElevationAuth`, with its `Default`. -/
structure SessionElevationAuth where
  lockedOut : Bool := false
  attempts : ℕ := 0
deriving DecidableEq

/-- `elevation::manager::PendingElevation`. -/
structure PendingElevation where
  sessionId : SessionId
  compositorConn : ConnId
  requesterConn : ConnId
deriving DecidableEq

/-- `elevation::PendingElevationInfo`. -/
structure PendingElevationInfo where
  sessionId : SessionId
  compositorConn : ConnId
deriving DecidableEq

/-- `elevation::ElevationOutcome`. -/
structure ElevationOutcome where
  sessionId : SessionId
  compositorConn : ConnId
  requesterConn : ConnId
  outcome : AuthOutcome
  terminal : Bool
deriving DecidableEq

/-- `elevation::AbandonedElevation`. -/
structure AbandonedElevation where
  requestId : ElevationRequestId
  sessionId : SessionId
  compositorConn : ConnId
  requesterConn : ConnId
deriving DecidableEq

/-! ## The manager -/

/-- `elevation::ElevationManager`. -/
structure ElevationManager where
  pending : Table ElevationRequestId PendingElevation := ∅
  nextId : ℕ := 0
  sessionAuth : Table SessionId SessionElevationAuth := ∅
  timeouts : ElevationTimeouts := {}
  requesterUid : Option ℕ := none

/-- What `attempt` leaves behind: the manager, the outcome, and the requests it handed to the
    authenticator. -/
structure ElevationAttempt where
  manager : ElevationManager
  resolved : ElevationOutcome
  calls : List AuthRequest

namespace ElevationManager

/-- `ElevationManager::set_requester_uid`. -/
def setRequesterUid (self : ElevationManager) (uid : Option ℕ) : ElevationManager :=
  { self with requesterUid := uid }

/-- `ElevationManager::is_authorized_requester`. -/
def isAuthorizedRequester (self : ElevationManager) (uid : ℕ) : Bool :=
  self.requesterUid = some uid

/-- `ElevationManager::peek`. -/
def peek (self : ElevationManager) (id : ElevationRequestId) : Option PendingElevationInfo :=
  (self.pending.lookup id).map fun p =>
    { sessionId := p.sessionId, compositorConn := p.compositorConn }

/-- `ElevationManager::compositor_conn_for`. -/
def compositorConnFor (self : ElevationManager) (id : ElevationRequestId) : Option ConnId :=
  (self.pending.lookup id).map PendingElevation.compositorConn

/-- The session's attempt record, `or_default`. -/
def auth (self : ElevationManager) (session : SessionId) : SessionElevationAuth :=
  (self.sessionAuth.lookup session).getD {}

/-- `ElevationManager::begin`. -/
def begin (self : ElevationManager) (sessionId : SessionId) (compositorConn requesterConn : ConnId)
    (policy : ElevationPolicy) (authPolicy : AuthPolicy) (now : Instant) :
    Result (ElevationManager × ElevationRequestId) :=
  if (self.auth sessionId).lockedOut then
    .error (.lockedOut authPolicy.lockout.asSecs)
  else
    let pendingForSession := self.pending.countVal fun p => p.sessionId = sessionId
    if pendingForSession ≥ policy.maxPendingPerSession then
      .error (.permissionDenied
        ("session " ++ toString sessionId ++ " already has " ++ toString pendingForSession
          ++ " elevation prompt(s) pending"))
    else
      let id := self.nextId + 1
      .ok
        ({ self with
            nextId := id
            pending := self.pending.insert id { sessionId, compositorConn, requesterConn }
            timeouts := self.timeouts.startPrompt id now policy.promptTimeout }, id)

/-- Stop tracking request `id`, as every resolution of a prompt does. -/
def close (self : ElevationManager) (id : ElevationRequestId) : ElevationManager :=
  { self with
    pending := self.pending.erase id
    timeouts := self.timeouts.cancelPrompt id }

/-- `ElevationManager::attempt`. -/
def attempt (self : ElevationManager) (id : ElevationRequestId) (authenticator : Authenticator)
    (request : AuthRequest) (authPolicy : AuthPolicy) (now : Instant) : Option ElevationAttempt :=
  match self.pending.lookup id with
  | none => none
  | some p =>
    -- the counter is the session's, shared by its prompts; its lockout flag is not read
    let checked := check authenticator request authPolicy (self.auth p.sessionId).attempts
    let entry := { self.auth p.sessionId with attempts := checked.2 }
    let resolved (terminal : Bool) : ElevationOutcome :=
      { sessionId := p.sessionId
        compositorConn := p.compositorConn
        requesterConn := p.requesterConn
        outcome := checked.1
        terminal }
    match checked.1 with
    | .success =>
      some
        { manager := { self with
            sessionAuth :=
              self.sessionAuth.insert p.sessionId { entry with attempts := 0 } }.close id
          resolved := resolved true
          calls := [request] }
    | .lockedOut _ =>
      some
        { manager := { self with
            sessionAuth := self.sessionAuth.insert p.sessionId { entry with lockedOut := true }
            timeouts := self.timeouts.startLockout p.sessionId now authPolicy.lockout }.close id
          resolved := resolved true
          calls := [request] }
    | .failure _ =>
      some
        { manager := { self with sessionAuth := self.sessionAuth.insert p.sessionId entry }
          resolved := resolved false
          calls := [request] }
    | _ =>
      some
        { manager := { self with
            sessionAuth := self.sessionAuth.insert p.sessionId entry }.close id
          resolved := resolved true
          calls := [request] }

/-- `ElevationManager::cancel`. -/
def cancel (self : ElevationManager) (id : ElevationRequestId) :
    Option (ElevationManager × ElevationOutcome) :=
  match self.pending.lookup id with
  | none => none
  | some p =>
    some (self.close id,
      { sessionId := p.sessionId
        compositorConn := p.compositorConn
        requesterConn := p.requesterConn
        outcome := .cancelled
        terminal := true })

/-- `ElevationManager::clear_expired_lockouts`. -/
def clearExpiredLockouts (self : ElevationManager) (now : Instant) : ElevationManager :=
  let expired := self.timeouts.expiredLockouts now
  { self with
    timeouts := expired.2
    sessionAuth := expired.1.foldl (fun sessionAuth sessionId =>
      sessionAuth.modify sessionId fun auth => { auth with lockedOut := false, attempts := 0 })
      self.sessionAuth }

/-- `ElevationManager::take_abandoned`. -/
def takeAbandoned (self : ElevationManager) (id : ElevationRequestId) :
    ElevationManager × Option AbandonedElevation :=
  (self.close id,
    (self.pending.lookup id).map fun p =>
      { requestId := id
        sessionId := p.sessionId
        compositorConn := p.compositorConn
        requesterConn := p.requesterConn })

/-- `ids.into_iter().filter_map(|id| self.take_abandoned(id)).collect()`. -/
def takeAll (self : ElevationManager) (ids : List ElevationRequestId) :
    ElevationManager × List AbandonedElevation :=
  forEach (fun self id =>
    let taken := self.takeAbandoned id
    (taken.1, taken.2.toList)) self ids

/-- `ElevationManager::expire_pending`. -/
def expirePending (self : ElevationManager) (now : Instant) :
    ElevationManager × List AbandonedElevation :=
  let expired := self.timeouts.expiredPrompts now
  { self with timeouts := expired.2 }.takeAll expired.1

/-- `ElevationManager::abandon_where`. -/
def abandonWhere (self : ElevationManager) (predicate : PendingElevation → Bool) :
    ElevationManager × List AbandonedElevation :=
  self.takeAll (self.pending.keysWhere fun _ p => predicate p)

/-- `ElevationManager::abandon_session`. -/
def abandonSession (self : ElevationManager) (sessionId : SessionId) :
    ElevationManager × List AbandonedElevation :=
  self.abandonWhere fun p => p.sessionId = sessionId

/-- `ElevationManager::abandon_connection`. -/
def abandonConnection (self : ElevationManager) (connId : ConnId) :
    ElevationManager × List AbandonedElevation :=
  self.abandonWhere fun p => p.compositorConn = connId ∨ p.requesterConn = connId

/-- The same manager under two iteration orders. -/
structure Rehash (m m' : ElevationManager) : Prop where
  pending : Table.Rehash m.pending m'.pending
  nextId : m'.nextId = m.nextId
  sessionAuth : Table.Rehash m.sessionAuth m'.sessionAuth
  promptExpiry : Table.Rehash m.timeouts.promptExpiry m'.timeouts.promptExpiry
  lockoutExpiry : Table.Rehash m.timeouts.lockoutExpiry m'.timeouts.lockoutExpiry
  requesterUid : m'.requesterUid = m.requesterUid

/-! ## What each operation does to the prompts and the attempt records -/

section Specs

variable {self m' : ElevationManager}

theorem close_pending (self : ElevationManager) (id id' : ElevationRequestId) :
    (self.close id).pending.lookup id' = if id' = id then none else self.pending.lookup id' :=
  Table.lookup_erase_eq ..

theorem close_promptExpiry (self : ElevationManager) (id id' : ElevationRequestId) :
    (self.close id).timeouts.promptExpiry.lookup id'
      = if id' = id then none else self.timeouts.promptExpiry.lookup id' :=
  Table.lookup_erase_eq ..

theorem auth_insert (self : ElevationManager) (k session : SessionId)
    (record : SessionElevationAuth) :
    { self with sessionAuth := self.sessionAuth.insert k record : ElevationManager }.auth session
      = if session = k then record else self.auth session := by
  simp only [auth, Table.lookup_insert_eq]
  split <;> rfl

/-- `begin` opens a prompt exactly when the session is not locked out and has room for one. -/
theorem begin_eq_ok_iff {sessionId : SessionId} {compositorConn requesterConn : ConnId}
    {policy : ElevationPolicy} {authPolicy : AuthPolicy} {now : Instant}
    {id : ElevationRequestId} :
    self.begin sessionId compositorConn requesterConn policy authPolicy now = .ok (m', id) ↔
      ((self.auth sessionId).lockedOut = false
        ∧ self.pending.countVal (fun p => p.sessionId = sessionId) < policy.maxPendingPerSession)
      ∧ id = self.nextId + 1
      ∧ m' = { self with
          nextId := self.nextId + 1
          pending := self.pending.insert (self.nextId + 1)
            { sessionId, compositorConn, requesterConn }
          timeouts := self.timeouts.startPrompt (self.nextId + 1) now policy.promptTimeout } := by
  unfold begin
  cases (self.auth sessionId).lockedOut with
  | true => simp
  | false =>
      by_cases hroom :
        self.pending.countVal (fun p => p.sessionId = sessionId) ≥ policy.maxPendingPerSession
      · simp [hroom, Nat.not_lt.2 hroom]
      · simp only [Bool.false_eq_true, if_false, hroom, Except.ok.injEq, Prod.mk.injEq,
          Nat.lt_of_not_le hroom, and_self, true_and]
        rw [eq_comm (b := m'), eq_comm (b := id), and_comm]

section Attempt

variable {id : ElevationRequestId} {p : PendingElevation} {authenticator : Authenticator}
  {request : AuthRequest} (policy : AuthPolicy) (now : Instant)

theorem attempt_accepted (h : self.pending.lookup id = some p)
    (ha : authenticator.accepts request = true) :
    self.attempt id authenticator request policy now
      = some
          { manager := { self with
              sessionAuth := self.sessionAuth.insert p.sessionId
                { self.auth p.sessionId with attempts := 0 } }.close id
            resolved :=
              { sessionId := p.sessionId
                compositorConn := p.compositorConn
                requesterConn := p.requesterConn
                outcome := .success
                terminal := true }
            calls := [request] } := by
  simp only [attempt, h, check_of_accepts policy _ ha]

/-- A rejected answer counts against the session; at the limit the prompt is closed and the
    session locked out until `now + lockout`. -/
theorem attempt_rejected (h : self.pending.lookup id = some p)
    (ha : authenticator.accepts request = false) :
    self.attempt id authenticator request policy now
      = if wrapU32 ((self.auth p.sessionId).attempts + 1) ≥ policy.maxAttempts then
          some
            { manager := { self with
                sessionAuth := self.sessionAuth.insert p.sessionId
                  { lockedOut := true
                    attempts := wrapU32 ((self.auth p.sessionId).attempts + 1) }
                timeouts := self.timeouts.startLockout p.sessionId now policy.lockout }.close id
              resolved :=
                { sessionId := p.sessionId
                  compositorConn := p.compositorConn
                  requesterConn := p.requesterConn
                  outcome := .lockedOut policy.lockout.asSecs
                  terminal := true }
              calls := [request] }
        else
          some
            { manager := { self with
                sessionAuth := self.sessionAuth.insert p.sessionId
                  { self.auth p.sessionId with
                    attempts := wrapU32 ((self.auth p.sessionId).attempts + 1) } }
              resolved :=
                { sessionId := p.sessionId
                  compositorConn := p.compositorConn
                  requesterConn := p.requesterConn
                  outcome := .failure
                    (policy.maxAttempts - wrapU32 ((self.auth p.sessionId).attempts + 1))
                  terminal := false }
              calls := [request] } := by
  have hcheck := check_of_rejects policy (self.auth p.sessionId).attempts ha
  by_cases hlim : wrapU32 ((self.auth p.sessionId).attempts + 1) ≥ policy.maxAttempts
  · rw [if_pos hlim] at hcheck ⊢
    simp only [attempt, h, hcheck]
  · rw [if_neg hlim] at hcheck ⊢
    simp only [attempt, h, hcheck]

/-- An answer leaves the records of every other session alone. -/
theorem attempt_frame {out : ElevationAttempt} {session : SessionId}
    (h : self.pending.lookup id = some p)
    (hout : self.attempt id authenticator request policy now = some out)
    (hs : session ≠ p.sessionId) :
    out.manager.auth session = self.auth session
      ∧ out.manager.timeouts.lockoutExpiry.lookup session
        = self.timeouts.lockoutExpiry.lookup session := by
  cases ha : authenticator.accepts request with
  | true =>
      rw [attempt_accepted policy now h ha] at hout
      obtain rfl := Option.some.inj hout
      exact ⟨by simp only [close, auth, Table.lookup_insert_eq, if_neg hs], rfl⟩
  | false =>
      rw [attempt_rejected policy now h ha] at hout
      split at hout
      · obtain rfl := Option.some.inj hout
        refine ⟨by simp only [close, auth, Table.lookup_insert_eq, if_neg hs], ?_⟩
        simp only [close, ElevationTimeouts.cancelPrompt, ElevationTimeouts.startLockout,
          Table.lookup_insert_eq, if_neg hs]
      · obtain rfl := Option.some.inj hout
        exact ⟨by simp only [auth, Table.lookup_insert_eq, if_neg hs], rfl⟩

theorem attempt_eq_some {out : ElevationAttempt}
    (h : self.attempt id authenticator request policy now = some out) :
    ∃ p, self.pending.lookup id = some p := by
  cases hl : self.pending.lookup id with
  | some p => exact ⟨p, rfl⟩
  | none => simp [attempt, hl] at h

end Attempt

/-! ## Closing many prompts -/

/-- What closing prompts leaves alone. -/
structure SameRecords (m m' : ElevationManager) : Prop where
  nextId : m'.nextId = m.nextId
  sessionAuth : m'.sessionAuth = m.sessionAuth
  lockoutExpiry : m'.timeouts.lockoutExpiry = m.timeouts.lockoutExpiry
  requesterUid : m'.requesterUid = m.requesterUid

/-- `take_all` closes the prompts it is given, and nothing else. -/
theorem takeAll_spec (ids : List ElevationRequestId) (self : ElevationManager) :
    (∀ id, (self.takeAll ids).1.pending.lookup id
        = if id ∈ ids then none else self.pending.lookup id)
      ∧ (∀ id, (self.takeAll ids).1.timeouts.promptExpiry.lookup id
        = if id ∈ ids then none else self.timeouts.promptExpiry.lookup id)
      ∧ SameRecords self (self.takeAll ids).1 := by
  induction ids generalizing self with
  | nil => exact ⟨fun id => by simp [takeAll], fun id => by simp [takeAll], ⟨rfl, rfl, rfl, rfl⟩⟩
  | cons k rest ih =>
      obtain ⟨hpending, hexpiry, hsame⟩ := ih (self.close k)
      refine ⟨fun id => ?_, fun id => ?_, ⟨hsame.nextId, hsame.sessionAuth, hsame.lockoutExpiry,
        hsame.requesterUid⟩⟩
      · refine (hpending id).trans ?_
        rw [close_pending]
        by_cases hk : id = k <;> by_cases hrest : id ∈ rest <;> simp [hk, hrest]
      · refine (hexpiry id).trans ?_
        rw [close_promptExpiry]
        by_cases hk : id = k <;> by_cases hrest : id ∈ rest <;> simp [hk, hrest]

theorem abandonWhere_pending (self : ElevationManager) (predicate : PendingElevation → Bool)
    {id : ElevationRequestId} {p : PendingElevation} :
    (self.abandonWhere predicate).1.pending.lookup id = some p ↔
      self.pending.lookup id = some p ∧ predicate p = false := by
  unfold abandonWhere
  rw [(takeAll_spec _ _).1 id]
  simp only [Table.mem_keysWhere]
  cases hl : self.pending.lookup id with
  | none => simp
  | some q => cases hq : predicate q <;> simp <;> grind

theorem expirePending_spec (self : ElevationManager) (now : Instant) :
    (∀ id p, (self.expirePending now).1.pending.lookup id = some p →
        self.pending.lookup id = some p)
      ∧ SameRecords self (self.expirePending now).1 := by
  obtain ⟨hpending, -, hsame⟩ := takeAll_spec (self.timeouts.expiredPrompts now).1
    { self with timeouts := (self.timeouts.expiredPrompts now).2 }
  refine ⟨fun id p h => ?_, ⟨hsame.nextId, hsame.sessionAuth, hsame.lockoutExpiry,
    hsame.requesterUid⟩⟩
  have hid := (hpending id).symm.trans h
  split at hid
  · cases hid
  · exact hid

/-! ## The lockout sweep -/

/-- What `clear_expired_lockouts` makes of a session's record. -/
private theorem foldl_modify_lookup (ks : List SessionId) (t : Table SessionId SessionElevationAuth)
    (session : SessionId) :
    (ks.foldl (fun t k => t.modify k fun auth => { auth with lockedOut := false, attempts := 0 })
        t).lookup session
      = if session ∈ ks then
          (t.lookup session).map fun auth => { auth with lockedOut := false, attempts := 0 }
        else
          t.lookup session := by
  induction ks generalizing t with
  | nil => simp
  | cons k rest ih =>
      rw [List.foldl_cons, ih, Table.lookup_modify]
      by_cases hk : session = k <;> by_cases hrest : session ∈ rest <;>
        simp [hk, hrest, Option.map_map, Function.comp_def]

/-- A sweep clears the records of the sessions whose lockout is due, and no other. -/
theorem clearExpiredLockouts_record (self : ElevationManager) (now : Instant)
    (session : SessionId) :
    (self.clearExpiredLockouts now).auth session
      = if ∃ expiry, self.timeouts.lockoutExpiry.lookup session = some expiry ∧ expiry ≤ now then
          {}
        else
          self.auth session := by
  simp only [auth, clearExpiredLockouts, foldl_modify_lookup, ElevationTimeouts.expiredLockouts,
    drainExpired, Table.mem_drain, decide_eq_true_eq]
  split
  · cases self.sessionAuth.lookup session with
    | none => rfl
    | some record => rfl
  · rfl

theorem clearExpiredLockouts_auth {now : Instant} {session : SessionId}
    (h : ∀ expiry, self.timeouts.lockoutExpiry.lookup session = some expiry → now < expiry) :
    (self.clearExpiredLockouts now).auth session = self.auth session := by
  rw [clearExpiredLockouts_record, if_neg]
  rintro ⟨expiry, hl, hdue⟩
  exact absurd (h expiry hl) (Nat.not_lt.2 hdue)

theorem clearExpiredLockouts_lockoutExpiry {now : Instant} {session : SessionId}
    {expiry : Instant} :
    (self.clearExpiredLockouts now).timeouts.lockoutExpiry.lookup session = some expiry ↔
      self.timeouts.lockoutExpiry.lookup session = some expiry ∧ now < expiry := by
  simp only [clearExpiredLockouts, ElevationTimeouts.expiredLockouts, drainExpired,
    Table.lookup_drain, decide_eq_false_iff_not, Nat.not_le]

theorem Rehash.auth_eq (h : Rehash self m') (session : SessionId) :
    m'.auth session = self.auth session := by
  simp only [auth, h.sessionAuth.lookup_eq]

end Specs

end ElevationManager

end MitosSession
