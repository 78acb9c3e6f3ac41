import MitosSession.Daemon.Outcomes
import MitosSession.Daemon.Run

set_option autoImplicit false

/-! # What a handler can do

Every handler of the daemon is a chain of elementary changes (`Daemon.Change`): one table updated
in one way, with the messages that go with it. This file says so once for each handler; what the
daemon keeps along its runs is then proved change by change.

Not in the list are the steps that carry a result of their own: the arrival of a connection, a new
session (`Daemon.Enters`), an unlock attempt, the opening of a prompt, `power::suspend` and the
loss of a compositor. `Daemon.Handled` puts everything together, one constructor for each way an
event can go. -/

namespace MitosSession

/-- Effects that neither reply to a request nor show or hide a lock screen. -/
def Effect.isNotice : Effect → Bool
  | .send _ (.response _) _ => false
  | .send _ (.event (.showLockScreen _ _)) _ => false
  | .send _ (.event (.hideLockScreen _)) _ => false
  | _ => true

namespace Daemon

/-- The elementary changes. `cause` is the command being handled, if a command is. -/
inductive Change (cause : Option ManagerCommand) (d : Daemon) : List Effect → Daemon → Prop
  | notice {effects : List Effect} (h : ∀ e ∈ effects, e.isNotice = true) : Change cause d effects d
  | desk (seats : SeatManager) (idle : IdleDetector) (shouldExit : Bool) :
      Change cause d [] { d with seats, idle, shouldExit }
  | configure (settings : Settings) (authenticator : PamAuthenticator) (uid : Option ℕ) :
      Change cause d []
        { d with settings, authenticator, elevation := d.elevation.setRequesterUid uid }
  /-- The connection is gone: nothing is sent to it any more, and it serves no session. -/
  | disconnect (conn : ConnId) :
      Change cause d []
        { d with
          registry := d.registry.unregister conn
          sessions := { d.sessions with
            sessions := d.sessions.sessions.mapVal fun _ ctx =>
              if ctx.compositorConn = some conn then { ctx with compositorConn := none }
              else ctx } }
  | restarting (id : SessionId) :
      Change cause d [] { d with sessions := d.sessions.update id (·.transition .starting) }
  /-- Which process runs the session's display, and how often it was restarted. -/
  | process (id : SessionId) (f : SessionContext → SessionContext)
      (hf : ∀ ctx, f ctx = { ctx with
        compositorProcess := (f ctx).compositorProcess
        compositorRestarts := (f ctx).compositorRestarts }) :
      Change cause d [] { d with sessions := d.sessions.update id f }
  | erase (id : SessionId) :
      Change cause d []
        { d with sessions := { d.sessions with sessions := d.sessions.sessions.erase id } }
  | registerCompositor {cmd : ManagerCommand} {id : SessionId} {ctx : SessionContext}
      (hcause : cause = some cmd) (hrequest : cmd.request = .registerCompositor id)
      (hctx : d.sessions.sessions.lookup id = some ctx)
      (hpeer : cmd.peer.uid = 0 ∨ cmd.peer.uid = ctx.session.uid) :
      Change cause d (d.registerCompositor cmd.connId id).effects
        (d.registerCompositor cmd.connId id).daemon
  | lock {id : SessionId} {locks : LockManager} (reason : LockReason)
      (hlock : d.locks.lock id (LockPolicy.from d.settings.lock) = .ok locks) :
      Change cause d ({ d with locks }.showLock id reason).2 ({ d with locks }.showLock id reason).1
  | inhibit (inhibitors : InhibitorRegistry) :
      Change cause d [] { d with locks := { d.locks with inhibitors } }
  | sweepLocks (now : Instant) : Change cause d [] { d with locks := d.locks.sweepLockouts now }
  /-- The attempt records and lockout timers of elevation. -/
  | record (sessionAuth : Table SessionId SessionElevationAuth)
      (lockoutExpiry : Table SessionId Instant) :
      Change cause d []
        { d with elevation :=
          { d.elevation with
            sessionAuth
            timeouts := { d.elevation.timeouts with lockoutExpiry } } }
  | promptTimers (promptExpiry : Table ElevationRequestId Instant) :
      Change cause d []
        { d with elevation :=
          { d.elevation with timeouts := { d.elevation.timeouts with promptExpiry } } }
  /-- A prompt is over, and its requester is told. Only an answer to it can be a success. -/
  | resolve {id : ElevationRequestId} {p : PendingElevation} (outcome : AuthOutcome)
      (hp : d.elevation.pending.lookup id = some p)
      (hsuccess : outcome = .success → ∃ cmd password, cause = some cmd
        ∧ cmd.request = .respondElevation id (.password password)) :
      Change cause d [d.registry.sendResponse p.requesterConn (.authResult outcome)]
        { d with elevation := d.elevation.close id }

/-- What `SessionManager::create_session` can do: nothing, spend an id, or enter a session. -/
inductive Enters (d : Daemon) : Daemon → Prop
  | none : Enters d d
  | spent :
      Enters d { d with sessions := { d.sessions with nextId := wrapU32 (d.sessions.nextId + 1) } }
  | entered (ctx : SessionContext) (hid : ctx.id = d.sessions.nextId)
      (hstate : ctx.state = .starting) (hconn : ctx.compositorConn = none) :
      Enters d
        { d with sessions :=
            { sessions := d.sessions.sessions.insert d.sessions.nextId ctx
              nextId := wrapU32 (d.sessions.nextId + 1) } }

/-- Chains of changes. -/
abbrev Changes (cause : Option ManagerCommand) : Daemon → List Effect → Daemon → Prop :=
  Chain (Change cause)

section

variable {cause : Option ManagerCommand} {d : Daemon}

theorem Changes.nothing : Changes cause d [] d :=
  Chain.nil d

theorem Changes.notice {effects : List Effect} (h : ∀ e ∈ effects, e.isNotice = true) :
    Changes cause d effects d :=
  Chain.single (Change.notice h)

theorem isNotice_sendEventTo {registry : ConnRegistry} {conn : Option ConnId} {event : Event}
    (h : ∀ c q, (Effect.send c (.event event) q).isNotice = true) :
    ∀ e ∈ registry.sendEventTo conn event, e.isNotice = true := by
  cases conn with
  | none => simp [ConnRegistry.sendEventTo]
  | some c => simpa [ConnRegistry.sendEventTo, ConnRegistry.sendEvent] using h c _

/-! ## Prompts -/

private theorem close_absent {m : ElevationManager} {id : ElevationRequestId}
    (h : m.pending.lookup id = none) :
    m.close id = { m with timeouts := m.timeouts.cancelPrompt id } := by
  have herase : m.pending.erase id = m.pending := by
    have hnot : id ∉ m.pending.keys := fun hmem =>
      absurd (AList.mem_keys.1 hmem) (AList.lookup_eq_none.1 h)
    exact AList.ext (List.kerase_of_notMem_keys hnot)
  simp only [ElevationManager.close, herase]

/-- Tearing prompts down unanswered: each that is open is closed and its requester told. -/
theorem takeAll_changes (reason : String) (ids : List ElevationRequestId) (d : Daemon) :
    Changes cause d
      ((d.elevation.takeAll ids).2.flatMap (notifyElevationAbandoned d.registry reason))
      { d with elevation := (d.elevation.takeAll ids).1 } := by
  induction ids generalizing d with
  | nil => exact Changes.nothing
  | cons id rest ih =>
      have hrest := ih { d with elevation := d.elevation.close id }
      simp only [ElevationManager.takeAll, forEach_cons, List.flatMap_append] at hrest ⊢
      refine Chain.append ?_ hrest
      cases hp : d.elevation.pending.lookup id with
      | none =>
          -- an id without a prompt loses its timer and nobody is told
          have hclose := close_absent hp
          simp only [ElevationManager.takeAbandoned, hp, Option.map_none, Option.toList_none,
            List.flatMap_nil, hclose]
          exact Chain.single (Change.promptTimers _)
      | some p =>
          simp only [ElevationManager.takeAbandoned, hp, Option.map_some, Option.toList_some,
            List.flatMap_cons, List.flatMap_nil, List.append_nil, notifyElevationAbandoned]
          have hhide : Changes cause d
              [d.registry.sendEvent p.compositorConn (.hideElevationPrompt id)] d :=
            Changes.notice (by simp [ConnRegistry.sendEvent, Effect.isNotice])
          exact hhide.append (Chain.single (Change.resolve _ hp (by simp)))

theorem reportElevation_changes (d : Daemon) {id : ElevationRequestId} {p : PendingElevation}
    (outcome : AuthOutcome) (hp : d.elevation.pending.lookup id = some p)
    (hsuccess : outcome = .success → ∃ cmd password, cause = some cmd
      ∧ cmd.request = .respondElevation id (.password password)) :
    Changes cause d
      (d.reportElevation id
        { sessionId := p.sessionId
          compositorConn := p.compositorConn
          requesterConn := p.requesterConn
          outcome
          terminal := true })
      { d with elevation := d.elevation.close id } := by
  simp only [reportElevation, if_true]
  have hevents : Changes cause d
      [d.registry.sendEvent p.compositorConn (.elevationFeedback id outcome),
        d.registry.sendEvent p.compositorConn (.hideElevationPrompt id)] d :=
    Changes.notice (by simp [ConnRegistry.sendEvent, Effect.isNotice])
  exact hevents.append (Chain.single (Change.resolve outcome hp hsuccess))

theorem isNotice_authEffects (d : Daemon) (env : Env) (calls : List AuthRequest) :
    ∀ e ∈ d.authEffects env calls, e.isNotice = true := by
  simp [authEffects, Effect.isNotice]

/-- One answer to a prompt: the credential is checked, the record written, the outcome reported,
    and the prompt closed if that ends it. -/
theorem attempt_changes {d : Daemon} (env : Env) {id : ElevationRequestId} {p : PendingElevation}
    {authenticator : Authenticator} {request : AuthRequest} {policy : AuthPolicy} {now : Instant}
    {attempt : ElevationAttempt} (hp : d.elevation.pending.lookup id = some p)
    (h : d.elevation.attempt id authenticator request policy now = some attempt)
    (hcause : attempt.resolved.outcome = .success → ∃ cmd password, cause = some cmd
      ∧ cmd.request = .respondElevation id (.password password)) :
    Changes cause d
      (d.authEffects env attempt.calls ++ d.reportElevation id attempt.resolved)
      { d with elevation := attempt.manager } := by
  refine Chain.append (Changes.notice (isNotice_authEffects d env _)) ?_
  cases ha : authenticator.accepts request with
  | true =>
      rw [ElevationManager.attempt_accepted policy now hp ha] at h
      obtain rfl := Option.some.inj h
      have hrecord : Change cause d [] _ := Change.record
        (d.elevation.sessionAuth.insert p.sessionId
          { d.elevation.auth p.sessionId with attempts := 0 })
        d.elevation.timeouts.lockoutExpiry
      exact Chain.cons hrecord (reportElevation_changes _ .success hp hcause)
  | false =>
      rw [ElevationManager.attempt_rejected policy now hp ha] at h
      split at h
      · obtain rfl := Option.some.inj h
        have hrecord : Change cause d [] _ := Change.record
          (d.elevation.sessionAuth.insert p.sessionId
            { lockedOut := true
              attempts := wrapU32 ((d.elevation.auth p.sessionId).attempts + 1) })
          (d.elevation.timeouts.lockoutExpiry.insert p.sessionId (now + policy.lockout))
        exact Chain.cons hrecord (reportElevation_changes _ _ hp hcause)
      · obtain rfl := Option.some.inj h
        have hrecord : Change cause d [] _ := Change.record
          (d.elevation.sessionAuth.insert p.sessionId
            { d.elevation.auth p.sessionId with
              attempts := wrapU32 ((d.elevation.auth p.sessionId).attempts + 1) })
          d.elevation.timeouts.lockoutExpiry
        refine Chain.cons hrecord (Changes.notice ?_)
        simp [ConnRegistry.sendEvent, Effect.isNotice]

/-! ## Requests that are answered at once -/

/-- The request is answered at once, after changes only; nothing but an elevation answer is
    answered with a success. -/
structure Replied (cause : Option ManagerCommand) (d : Daemon) (reply : Reply) : Prop where
  changes : Changes cause d reply.effects reply.daemon
  answered : ∃ response, reply.response = some response
    ∧ (response = .authResult .success → ∃ cmd id password, cause = some cmd
      ∧ cmd.request = .respondElevation id (.password password))

/-- An answer that changes nothing. -/
theorem Replied.same {response : Response} (h : response ≠ .authResult .success) :
    Replied cause d { daemon := d, effects := [], response := some response } :=
  ⟨Changes.nothing, response, rfl, fun heq => absurd heq h⟩

theorem trySpawnCompositor_changes (spawned : Result Pid) (id : SessionId) :
    Changes cause d (d.trySpawnCompositor spawned id).2 (d.trySpawnCompositor spawned id).1 := by
  unfold trySpawnCompositor
  split
  · exact Changes.nothing
  · split
    · rename_i child
      exact Chain.cons
        (Change.process id (fun ctx => { ctx with compositorProcess := some child }) fun _ => rfl)
        (Changes.notice (by simp [Effect.isNotice]))
    · exact Changes.notice (by simp [Effect.isNotice])

theorem createSession_replied (env : Env) (userName : String)
    (seatId sessionType : Option String) :
    ∃ d₁, Enters d d₁ ∧ Replied cause d₁ (d.createSession env userName seatId sessionType) := by
  rcases createSession_cases d env userName seatId sessionType with
    ⟨e, sessions, hspent, heq⟩ | ⟨user, ctx, kind, launched, response, -, -, hbegin, hlaunched, hne,
      heq⟩
  · rw [heq]
    rcases hspent with rfl | rfl
    · exact ⟨d, Enters.none, Replied.same (by simp)⟩
    · exact ⟨_, Enters.spent, Replied.same (by simp)⟩
  · rw [heq]
    obtain ⟨hsession, hstate, hconn⟩ := begin_eq_ok hbegin
    have hid : ctx.id = d.sessions.nextId := by rw [SessionContext.id, hsession]
    refine ⟨_, Enters.entered ctx hid hstate hconn, ?_, response, rfl, fun h => absurd h hne⟩
    refine Chain.cons (Change.desk (d.seats.attachSession
      (seatId.getD d.settings.seat.defaultSeat) d.sessions.nextId) d.idle d.shouldExit) ?_
    rcases hlaunched with rfl | rfl
    · exact trySpawnCompositor_changes env.spawned d.sessions.nextId
    · exact Changes.nothing

theorem terminateSession_replied (sessionId : SessionId) :
    Replied cause d (d.terminateSession sessionId) := by
  rcases terminateSession_cases d sessionId with ⟨e, -, heq⟩ | ⟨ctx, -, heq⟩
  · rw [heq]
    exact Replied.same (by simp)
  · rw [heq]
    refine ⟨?_, _, rfl, by simp⟩
    refine Chain.silent (Change.erase sessionId)
      (Chain.silent (Change.desk (d.seats.detachSession sessionId) d.idle d.shouldExit) ?_)
    exact takeAll_changes "session ended" _
      { d with
        sessions := { d.sessions with sessions := d.sessions.sessions.erase sessionId }
        seats := d.seats.detachSession sessionId }

theorem lockSession_replied (env : Env) (sessionId : SessionId) (reason : LockReason) :
    Replied cause d (d.lockSession env sessionId reason) := by
  rcases lockSession_cases d env sessionId reason with ⟨text, heq⟩ | ⟨locks, hlock, heq⟩
  · rw [heq]
    exact Replied.same (by simp)
  · rw [heq]
    exact ⟨Chain.single (Change.lock reason hlock), _, rfl, by simp⟩

theorem switchSession_replied (seatId : String) (sessionId : SessionId) :
    Replied cause d (d.switchSession seatId sessionId) := by
  unfold switchSession
  split
  · exact Replied.same (by simp)
  · rename_i switched _
    refine ⟨?_, _, rfl, by simp⟩
    refine Chain.cons (Change.desk switched.1 d.idle d.shouldExit) (Changes.notice ?_)
    split
    · exact isNotice_sendEventTo fun _ _ => rfl
    · simp

theorem terminateAll_changes (d : Daemon) :
    Changes cause d [] { d with sessions := d.sessions.terminateAll } := by
  unfold SessionManager.terminateAll
  generalize d.sessions.list.map SessionContext.id = ids
  induction ids generalizing d with
  | nil => exact Changes.nothing
  | cons id rest ih =>
      rw [List.foldl_cons]
      unfold SessionManager.terminateSession
      cases d.sessions.sessions.lookup id with
      | none => exact ih d
      | some ctx =>
          exact Chain.silent (Change.erase id)
            (ih { d with sessions :=
              { d.sessions with sessions := d.sessions.sessions.erase id } })

theorem respondElevation_replied (env : Env) {cmd : ManagerCommand}
    {requestId : ElevationRequestId} {response : ElevationResponse}
    (hrequest : cmd.request = .respondElevation requestId response) :
    Replied (some cmd) d (d.respondElevation env requestId response) := by
  rcases respondElevation_cases d env requestId response with
    ⟨e, heq⟩ | ⟨p, hp, ⟨-, heq⟩ | ⟨password, ctx, attempt, rfl, -, hattempt, heq⟩⟩
  · rw [heq]
    exact Replied.same (by simp)
  · rw [heq]
    exact ⟨reportElevation_changes d .cancelled hp (by simp), _, rfl, by simp⟩
  · rw [heq]
    exact ⟨attempt_changes env hp hattempt fun _ => ⟨cmd, password, rfl, hrequest⟩,
      _, rfl, fun _ => ⟨cmd, requestId, password, rfl, hrequest⟩⟩

end

end Daemon

end MitosSession
