import MitosSession.Daemon.Managers
import MitosSession.Daemon.Prompts
import MitosSession.Daemon.Secrets
import MitosSession.Elevation.Bookkeeping
import MitosSession.Logging

set_option autoImplicit false

/-! # The audit trail

What the handlers of `main.rs` hand to `audit_log`, handler by handler and in the order in which
they do. `trail` is the log of a whole run. The trail is written beside everything else the
handlers do, so what matters is that the two agree: `prompts_on_trail` says that the trail, read by
its texts alone, tells at any time which prompts are open, and `grants_on_trail` that the
credentials accepted along a run and the events that say `Success` go one to one, in order.

Rejected commands, idle locks, crashes and power transitions leave nothing on the trail. -/

namespace MitosSession

namespace Daemon

/-! ## What the handlers log -/

/-- The event that `notify_elevation_abandoned` logs. -/
def abandonedAudit (env : Env) (reason : String) (abandoned : AbandonedElevation) : AuditEvent :=
  (AuditEvent.new env.systemTime 0 "elevation_abandoned" reason).withTarget
    (promptTarget abandoned.sessionId abandoned.requestId)

/-- What `create_session` logs. -/
def createSessionAudit (self : Daemon) (env : Env) (peer : PeerCred) (userName : String)
    (seatId : Option String) (sessionType : Option String) : List AuditEvent :=
  match env.userByName userName with
  | .error _ => []
  | .ok user =>
    let seatId := seatId.getD self.settings.seat.defaultSeat
    let sessionType :=
      if sessionType = some "x11" then .x11
      else if sessionType = some "tty" then .tty
      else (SessionPolicy.from self.settings.session).defaultSessionType
    let outcome :=
      match (self.sessions.createSession (env.prepared user) env.systemTime user seatId sessionType
        self.settings.session).2 with
      | .ok _ => "ok"
      | .error e => e.display
    [(AuditEvent.new env.systemTime peer.uid "create_session" outcome).withTarget userName]

/-- What the `TerminateSession` arm of `dispatch` logs. -/
def terminateSessionAudit (self : Daemon) (env : Env) (peer : PeerCred) (sessionId : SessionId) :
    List AuditEvent :=
  match self.sessions.terminateSession sessionId with
  | .error _ => []
  | .ok _ =>
    (AuditEvent.new env.systemTime peer.uid "terminate_session" "ok").withTarget
        (toString sessionId)
      :: (self.elevation.abandonSession sessionId).2.map (abandonedAudit env "session ended")

/-- What `lock_session` logs. -/
def lockSessionAudit (self : Daemon) (env : Env) (peer : PeerCred) (sessionId : SessionId) :
    List AuditEvent :=
  if self.cannotUnlock env sessionId then
    []
  else
    match self.locks.lock sessionId (LockPolicy.from self.settings.lock) with
    | .error _ => []
    | .ok _ =>
      [(AuditEvent.new env.systemTime peer.uid "lock_session" "ok").withTarget
        (toString sessionId)]

/-- What `unlock` logs. -/
def unlockAudit (self : Daemon) (env : Env) (peer : PeerCred) (sessionId : SessionId)
    (userName password : String) : List AuditEvent :=
  let attempt := self.locks.attemptUnlock (self.authenticator.authenticate env.pam)
    { sessionId, userName, password }
    (authPolicy self.settings.authentication self.settings.lock) env.now
  [(AuditEvent.new env.systemTime peer.uid "unlock_attempt" attempt.outcome.debug).withTarget
    userName]

/-- What `start_elevation` logs. -/
def startElevationAudit (self : Daemon) (env : Env) (connId : ConnId) (peer : PeerCred)
    (sessionId : SessionId) (action : ElevationAction) : List AuditEvent :=
  match action.validate with
  | .error _ => []
  | .ok () =>
    let elevationPolicy := ElevationPolicy.from self.settings.elevation
    if !elevationPolicy.enabled then
      []
    else
      match self.sessions.get sessionId with
      | .error _ => []
      | .ok ctx =>
        if !userHasPassword env.shadow ctx.session.userName then
          []
        else
          match ctx.compositorConn with
          | none => []
          | some compositorConn =>
            match self.elevation.begin sessionId compositorConn connId elevationPolicy
              (elevationAuthPolicy self.settings.elevation) env.now with
            | .error (.lockedOut _) =>
              [(AuditEvent.new env.systemTime peer.uid "elevation_request" "locked_out").withTarget
                (toString sessionId)]
            -- only a lockout is logged, not a session with too many prompts
            | .error _ => []
            | .ok begun =>
              [((AuditEvent.new env.systemTime peer.uid "elevation_request" "prompted").withTarget
                (promptTarget sessionId begun.2)).withDetail
                  (action.requestingApp ++ ": " ++ action.description)]

/-- What `respond_elevation` logs of an answer that was tried. -/
def resolvedAudit (env : Env) (peer : PeerCred) (requestId : ElevationRequestId)
    (resolved : ElevationOutcome) : AuditEvent :=
  (AuditEvent.new env.systemTime peer.uid "elevation_response" resolved.outcome.debug).withTarget
    (promptTarget resolved.sessionId requestId)

/-- What `respond_elevation` logs. -/
def respondElevationAudit (self : Daemon) (env : Env) (peer : PeerCred)
    (requestId : ElevationRequestId) (response : ElevationResponse) : List AuditEvent :=
  match self.elevation.peek requestId with
  | none => []
  | some info =>
    match response with
    | .cancelled =>
      match self.elevation.cancel requestId with
      | none => []
      | some cancelled => [resolvedAudit env peer requestId cancelled.2]
    | .password password =>
      match self.sessions.get info.sessionId with
      | .error _ => []
      | .ok ctx =>
        match self.elevation.attempt requestId (self.authenticator.authenticate env.pam)
          { sessionId := info.sessionId, userName := ctx.session.userName, password }
          (elevationAuthPolicy self.settings.elevation) env.now with
        | none => []
        | some attempt => [resolvedAudit env peer requestId attempt.resolved]

/-- What `dispatch` logs. -/
def dispatchAudit (self : Daemon) (env : Env) (connId : ConnId) (peer : PeerCred) :
    Request → List AuditEvent
  | .createSession userName seatId sessionType =>
    self.createSessionAudit env peer userName seatId sessionType
  | .terminateSession sessionId => self.terminateSessionAudit env peer sessionId
  | .lockSession sessionId => self.lockSessionAudit env peer sessionId
  | .unlock sessionId userName password =>
    self.unlockAudit env peer sessionId userName password
  | .requestElevation sessionId action =>
    self.startElevationAudit env connId peer sessionId action
  | .respondElevation requestId response =>
    self.respondElevationAudit env peer requestId response
  | _ => []

/-- What `handle_command` logs. -/
def handleCommandAudit (self : Daemon) (env : Env) (cmd : ManagerCommand) : List AuditEvent :=
  match authorize env.userByName cmd.peer cmd.connId cmd.request self.sessions self.elevation with
  | .error _ => []
  | .ok () => self.dispatchAudit env cmd.connId cmd.peer cmd.request

/-- What `on_idle_tick` logs. -/
def onIdleTickAudit (self : Daemon) (env : Env) : List AuditEvent :=
  -- the stage changes log nothing
  (((self.staged env).elevation.clearExpiredLockouts env.now).expirePending env.now).2.map
    (abandonedAudit env "timed out waiting for a response")

/-- What the handler of an event logs. -/
def audit (self : Daemon) (env : Env) : DaemonEvent → List AuditEvent
  | .ipc (.connected _ _ _) => []
  | .ipc (.disconnected connId) =>
    (self.elevation.abandonConnection connId).2.map
      (abandonedAudit env "a required connection disconnected")
  | .ipc (.command cmd) => self.handleCommandAudit env cmd
  | .idleTick => self.onIdleTickAudit env
  | .signal _ => []

/-- What a step logs. -/
def auditOf (x : Transition Daemon DaemonLabel) : List AuditEvent :=
  match x.label with
  | .handled env event _ => x.pre.audit env event
  | .rehash => []

/-- The trail that a run leaves. -/
def trail (tr : List (Transition Daemon DaemonLabel)) : List AuditEvent :=
  tr.flatMap auditOf

end Daemon

/-! ## Which prompts are open -/

/-- Prompt `id` is open, for session `s`. -/
def ElevationManager.isOpen (self : ElevationManager) (s : SessionId) (id : ElevationRequestId) :
    Bool :=
  (self.pending.lookup id).any fun p => p.sessionId = s

/-- The trail tells what became of the prompts between `m` and `m'`. -/
def Tracked (m : ElevationManager) (trail : List AuditEvent) (m' : ElevationManager) : Prop :=
  ∀ s id, trail.foldl (AuditEvent.track (promptTarget s id)) (m.isOpen s id) = m'.isOpen s id

section Tracked

variable {m m' : ElevationManager} {s : SessionId} {id : ElevationRequestId}
  {p : PendingElevation} {event : AuditEvent} {events : List AuditEvent}

theorem ElevationManager.isOpen_iff :
    m.isOpen s id = true ↔ ∃ p, m.pending.lookup id = some p ∧ p.sessionId = s := by
  simp [isOpen, Option.any_eq_true]

theorem tracked_seqClosed : SeqClosed Tracked where
  refl := fun _ _ _ => rfl
  trans := by
    intro m m' m'' events events' h h' s id
    rw [List.foldl_append, h s id, h' s id]

/-- An event about a prompt counts for that prompt, and for no other. -/
theorem track_promptTarget {k : SessionId} {requestId : ElevationRequestId}
    (htarget : event.target = some (promptTarget k requestId)) (isOpen : Bool) :
    event.track (promptTarget s id) isOpen
      = if k = s ∧ requestId = id then (isOpen || event.opensPrompt) && !event.closesPrompt
        else isOpen := by
  unfold AuditEvent.track
  rw [htarget]
  by_cases hsame : k = s ∧ requestId = id
  · obtain ⟨rfl, rfl⟩ := hsame
    rw [if_pos rfl, if_pos ⟨rfl, rfl⟩]
  · rw [if_neg fun heq => hsame (promptTarget_inj (Option.some.inj heq)), if_neg hsame]

theorem track_of_silent (hopens : event.opensPrompt = false) (hcloses : event.closesPrompt = false)
    (target : String) (isOpen : Bool) : event.track target isOpen = isOpen := by
  simp [AuditEvent.track, hopens, hcloses]

/-- No prompt was opened or closed, and the events do not say so. -/
theorem Tracked.silent (hpending : ∀ k, m'.pending.lookup k = m.pending.lookup k)
    (hevents : ∀ event ∈ events, event.opensPrompt = false ∧ event.closesPrompt = false) :
    Tracked m events m' := by
  have hsame : ∀ s id, m'.isOpen s id = m.isOpen s id := fun s id => by
    rw [ElevationManager.isOpen, hpending, ElevationManager.isOpen]
  intro s id
  rw [hsame]
  induction events with
  | nil => rfl
  | cons event rest ih =>
      obtain ⟨hopens, hcloses⟩ := hevents event (List.mem_cons_self ..)
      rw [List.foldl_cons, track_of_silent hopens hcloses]
      exact ih fun event hevent => hevents event (List.mem_cons_of_mem _ hevent)

theorem Tracked.begun (hfresh : m.pending.lookup id = none)
    (hpending : ∀ k, m'.pending.lookup k = if k = id then some p else m.pending.lookup k)
    (htarget : event.target = some (promptTarget p.sessionId id))
    (hopens : event.opensPrompt = true) (hcloses : event.closesPrompt = false) :
    Tracked m [event] m' := by
  intro s k
  rw [List.foldl_cons, List.foldl_nil, track_promptTarget htarget, hopens, hcloses,
    ElevationManager.isOpen, ElevationManager.isOpen, hpending]
  by_cases hk : k = id
  · subst hk
    rw [hfresh]
    by_cases hs : p.sessionId = s
    · simp [hs]
    · simp [hs]
  · rw [if_neg fun h => hk h.2.symm, if_neg hk]

/-- An answer was tried: the prompt is gone exactly if the event says that it was closed. -/
theorem Tracked.answered (hp : m.pending.lookup id = some p)
    (hpending : ∀ k, m'.pending.lookup k
      = if event.closesPrompt = true ∧ k = id then none else m.pending.lookup k)
    (htarget : event.target = some (promptTarget p.sessionId id))
    (hopens : event.opensPrompt = false) : Tracked m [event] m' := by
  intro s k
  rw [List.foldl_cons, List.foldl_nil, track_promptTarget htarget, hopens,
    ElevationManager.isOpen, ElevationManager.isOpen, hpending]
  by_cases hk : k = id
  · subst hk
    rw [hp]
    cases event.closesPrompt with
    | true => by_cases hs : p.sessionId = s <;> simp [hs]
    | false => by_cases hs : p.sessionId = s <;> simp [hs]
  · rw [if_neg fun h => hk h.2.symm, if_neg fun h => hk h.2]

/-- A list of prompts torn down, as the trail tells it. -/
theorem foldl_track_abandoned (env : Env) (reason : String) (target : String)
    (abandoned : List AbandonedElevation) (isOpen : Bool) :
    (abandoned.map (Daemon.abandonedAudit env reason)).foldl (AuditEvent.track target) isOpen
      = (isOpen && abandoned.all fun a => promptTarget a.sessionId a.requestId ≠ target) := by
  induction abandoned generalizing isOpen with
  | nil => simp
  | cons a rest ih =>
      rw [List.map_cons, List.foldl_cons, ih, List.all_cons]
      by_cases ha : promptTarget a.sessionId a.requestId = target
      · simp [AuditEvent.track, Daemon.abandonedAudit, AuditEvent.withTarget, AuditEvent.new,
          AuditEvent.closesPrompt, ha]
      · simp [AuditEvent.track, Daemon.abandonedAudit, AuditEvent.withTarget, ha]

theorem Tracked.tornDown {gone : ElevationRequestId → PendingElevation → Prop}
    {done : ElevationManager × List AbandonedElevation}
    (h : ElevationManager.TornDown m gone done) (env : Env) (reason : String) :
    Tracked m (done.2.map (Daemon.abandonedAudit env reason)) done.1 := by
  intro s id
  rw [foldl_track_abandoned, Bool.eq_iff_iff, Bool.and_eq_true, List.all_eq_true,
    ElevationManager.isOpen_iff, ElevationManager.isOpen_iff]
  simp only [ne_eq, decide_eq_true_eq]
  constructor
  · rintro ⟨⟨p, hp, rfl⟩, hkept⟩
    have hstays : ¬ gone id p := fun hgone =>
      hkept (p.abandoned id) ((h.reported _).2 ⟨p, hp, hgone, rfl⟩) rfl
    exact ⟨p, (h.untouched id p hp hstays).1, rfl⟩
  · rintro ⟨p, hp', rfl⟩
    cases hp : m.pending.lookup id with
    | none =>
        rw [h.others id hp] at hp'
        cases hp'
    | some q =>
        have hstays : ¬ gone id q := fun hgone => by
          rw [(h.removed id q hp hgone).1] at hp'
          cases hp'
        rw [(h.untouched id q hp hstays).1] at hp'
        obtain rfl := Option.some.inj hp'
        refine ⟨⟨q, rfl, rfl⟩, fun a ha hsame => ?_⟩
        obtain ⟨r, hr, hgone, -⟩ := (h.reported a).1 ha
        obtain ⟨-, hid⟩ := promptTarget_inj hsame
        rw [hid, hp] at hr
        obtain rfl := Option.some.inj hr
        exact hstays (hid ▸ hgone)

end Tracked

namespace Daemon

variable {d : Daemon} {env : Env}

/-! ## What an answer leaves on the trail -/

theorem resolvedAudit_opens (env : Env) (peer : PeerCred) (id : ElevationRequestId)
    (resolved : ElevationOutcome) : (resolvedAudit env peer id resolved).opensPrompt = false := by
  simp [resolvedAudit, AuditEvent.withTarget, AuditEvent.new, AuditEvent.opensPrompt]

theorem resolvedAudit_closes (env : Env) (peer : PeerCred) (id : ElevationRequestId)
    (resolved : ElevationOutcome) :
    (resolvedAudit env peer id resolved).closesPrompt = !isFailureText resolved.outcome.debug := by
  simp [resolvedAudit, AuditEvent.withTarget, AuditEvent.new, AuditEvent.closesPrompt]

theorem resolvedAudit_grants {peer : PeerCred} {id : ElevationRequestId}
    {resolved : ElevationOutcome} :
    (resolvedAudit env peer id resolved).grantsAccess = true ↔ resolved.outcome = .success :=
  AuditEvent.grantsAccess_iff (Or.inr rfl) rfl

/-- An answer succeeds if the authenticator accepts it, and it ends the prompt unless it is a
    failure. -/
theorem attempt_answers {m : ElevationManager} {id : ElevationRequestId} {p : PendingElevation}
    {authenticator : Authenticator} {request : AuthRequest} {policy : AuthPolicy} {now : Instant}
    {attempt : ElevationAttempt} (hp : m.pending.lookup id = some p)
    (h : m.attempt id authenticator request policy now = some attempt) :
    (attempt.resolved.outcome = .success ↔ authenticator.accepts request = true)
      ∧ isFailureText attempt.resolved.outcome.debug = !attempt.resolved.terminal
      ∧ ∀ k, attempt.manager.pending.lookup k
        = if attempt.resolved.terminal = true ∧ k = id then none else m.pending.lookup k := by
  have hnot : ∀ {outcome : AuthOutcome}, (∀ n, outcome ≠ .failure n) →
      isFailureText outcome.debug = false := fun houtcome =>
    Bool.eq_false_iff.2 fun htext => (isFailureText_debug.1 htext).elim houtcome
  cases ha : authenticator.accepts request with
  | true =>
      rw [ElevationManager.attempt_accepted policy now hp ha] at h
      obtain rfl := Option.some.inj h
      refine ⟨by simp, hnot (by simp), fun k => ?_⟩
      rw [ElevationManager.close_pending]
      simp
  | false =>
      rw [ElevationManager.attempt_rejected policy now hp ha] at h
      split at h
      · obtain rfl := Option.some.inj h
        refine ⟨by simp, hnot (by simp), fun k => ?_⟩
        rw [ElevationManager.close_pending]
        simp
      · obtain rfl := Option.some.inj h
        exact ⟨by simp, isFailureText_debug.2 ⟨_, rfl⟩, fun k => by simp⟩

/-- `start_elevation` rejects the request, or opens a prompt and logs that. -/
theorem startElevation_audited (d : Daemon) (env : Env) (connId : ConnId) (peer : PeerCred)
    (s : SessionId) (action : ElevationAction) :
    ((d.startElevation env connId s action).daemon = d
        ∧ (d.startElevation env connId s action).effects = []
        ∧ ∀ event ∈ d.startElevationAudit env connId peer s action, event.isQuiet = true)
      ∨ ∃ conn begun event, d.elevation.begin s conn connId
          (ElevationPolicy.from d.settings.elevation) (elevationAuthPolicy d.settings.elevation)
          env.now = .ok begun
        ∧ (d.startElevation env connId s action).daemon = { d with elevation := begun.1 }
        ∧ d.startElevationAudit env connId peer s action = [event]
        ∧ event.target = some (promptTarget s begun.2) ∧ event.opensPrompt = true
        ∧ event.closesPrompt = false := by
  unfold startElevation startElevationAudit
  dsimp only
  cases action.validate with
  | error msg => exact Or.inl ⟨rfl, rfl, by simp⟩
  | ok _ =>
      dsimp only
      split
      · exact Or.inl ⟨rfl, rfl, by simp⟩
      · cases d.sessions.get s with
        | error e => exact Or.inl ⟨rfl, rfl, by simp⟩
        | ok ctx =>
            dsimp only
            split
            · exact Or.inl ⟨rfl, rfl, by simp⟩
            · cases ctx.compositorConn with
              | none => exact Or.inl ⟨rfl, rfl, by simp⟩
              | some conn =>
                  dsimp only
                  cases hbegin : d.elevation.begin s conn connId
                      (ElevationPolicy.from d.settings.elevation)
                      (elevationAuthPolicy d.settings.elevation) env.now with
                  | error e =>
                      cases e with
                      | lockedOut secs =>
                          refine Or.inl ⟨rfl, rfl, List.forall_mem_singleton.2 ?_⟩
                          simp [AuditEvent.isQuiet, AuditEvent.withTarget, AuditEvent.new,
                            AuditEvent.opensPrompt, AuditEvent.closesPrompt,
                            AuditEvent.grantsAccess]
                      | _ => exact Or.inl ⟨rfl, rfl, by simp⟩
                  | ok begun =>
                      refine Or.inr ⟨conn, begun, _, hbegin, rfl, rfl, rfl, ?_, ?_⟩
                      · simp [AuditEvent.withDetail, AuditEvent.withTarget, AuditEvent.new,
                          AuditEvent.opensPrompt]
                      · simp [AuditEvent.withDetail, AuditEvent.withTarget, AuditEvent.new,
                          AuditEvent.closesPrompt]

/-- `respond_elevation` rejects the answer and logs nothing, or logs the one outcome. -/
theorem respondElevation_audited (d : Daemon) (env : Env) (peer : PeerCred)
    (id : ElevationRequestId) (response : ElevationResponse) :
    ((d.respondElevation env id response).daemon = d
        ∧ (d.respondElevation env id response).effects = []
        ∧ d.respondElevationAudit env peer id response = [])
      ∨ ∃ p resolved calls, d.elevation.pending.lookup id = some p
        ∧ resolved.sessionId = p.sessionId
        ∧ isFailureText resolved.outcome.debug = !resolved.terminal
        ∧ (∀ k, (d.respondElevation env id response).daemon.elevation.pending.lookup k
          = if resolved.terminal = true ∧ k = id then none else d.elevation.pending.lookup k)
        ∧ (d.respondElevation env id response).effects
          = d.authEffects env calls ++ d.reportElevation id resolved
        ∧ d.respondElevationAudit env peer id response = [resolvedAudit env peer id resolved]
        ∧ ((calls = [] ∧ resolved.outcome ≠ .success)
          ∨ ∃ request, calls = [request] ∧ request.sessionId = p.sessionId
            ∧ (resolved.outcome = .success
              ↔ (d.authenticator.authenticate env.pam).accepts request = true)) := by
  unfold respondElevation respondElevationAudit
  cases hp : d.elevation.pending.lookup id with
  | none =>
      simp only [ElevationManager.peek, hp, Option.map_none]
      exact Or.inl ⟨trivial, trivial, trivial⟩
  | some p =>
      simp only [ElevationManager.peek, hp, Option.map_some]
      cases response with
      | cancelled =>
          simp only [ElevationManager.cancel, hp]
          refine Or.inr ⟨p, _, [], rfl, rfl, ?_, fun k => ?_, rfl, rfl, Or.inl ⟨rfl, by simp⟩⟩
          · exact Bool.eq_false_iff.2 fun htext => (isFailureText_debug.1 htext).elim (by simp)
          · rw [ElevationManager.close_pending]
            simp
      | password password =>
          cases hctx : d.sessions.sessions.lookup p.sessionId with
          | none =>
              simp only [SessionManager.get, hctx]
              exact Or.inl ⟨trivial, trivial, trivial⟩
          | some ctx =>
              simp only [SessionManager.get, hctx]
              cases hattempt : d.elevation.attempt id (d.authenticator.authenticate env.pam)
                  ⟨p.sessionId, ctx.session.userName, password⟩
                  (elevationAuthPolicy d.settings.elevation) env.now with
              | none => exact Or.inl ⟨rfl, rfl, rfl⟩
              | some attempt =>
                  obtain ⟨hsuccess, hterminal, hpending⟩ := attempt_answers hp hattempt
                  obtain ⟨hcalls, hsession⟩ := ElevationManager.attempt_calls hp hattempt
                  exact Or.inr ⟨p, attempt.resolved, attempt.calls, rfl, hsession, hterminal,
                    hpending, rfl, rfl, Or.inr ⟨_, hcalls, rfl, hsuccess⟩⟩

/-! ## Prompts and the trail -/

theorem createSessionAudit_isQuiet (d : Daemon) (env : Env) (peer : PeerCred) (userName : String)
    (seatId sessionType : Option String) :
    ∀ event ∈ d.createSessionAudit env peer userName seatId sessionType, event.isQuiet = true := by
  unfold createSessionAudit
  cases env.userByName userName with
  | error e => simp
  | ok user =>
      refine List.forall_mem_singleton.2 (AuditEvent.isQuiet_of_action ?_)
      simp [AuditEvent.withTarget, AuditEvent.new]

theorem lockSessionAudit_isQuiet (d : Daemon) (env : Env) (peer : PeerCred) (s : SessionId) :
    ∀ event ∈ d.lockSessionAudit env peer s, event.isQuiet = true := by
  unfold lockSessionAudit
  cases d.cannotUnlock env s with
  | true => simp
  | false =>
      cases d.locks.lock s (LockPolicy.from d.settings.lock) with
      | error e => simp
      | ok locks =>
          refine List.forall_mem_singleton.2 (AuditEvent.isQuiet_of_action ?_)
          simp [AuditEvent.withTarget, AuditEvent.new]

/-- A termination is logged, and then every prompt it tears down. -/
theorem terminateSession_audited (d : Daemon) (env : Env) (peer : PeerCred) (s : SessionId) :
    ((d.terminateSession s).daemon.elevation = d.elevation
        ∧ d.terminateSessionAudit env peer s = [])
      ∨ ∃ event : AuditEvent, event.isQuiet = true
        ∧ (d.terminateSession s).daemon.elevation = (d.elevation.abandonSession s).1
        ∧ d.terminateSessionAudit env peer s
          = event :: (d.elevation.abandonSession s).2.map (abandonedAudit env "session ended") := by
  unfold terminateSessionAudit terminateSession
  cases d.sessions.terminateSession s with
  | error e => exact Or.inl ⟨rfl, rfl⟩
  | ok sessions =>
      refine Or.inr ⟨_, AuditEvent.isQuiet_of_action ?_, rfl, rfl⟩
      simp [AuditEvent.withTarget, AuditEvent.new]

theorem unlockAudit_silent (d : Daemon) (env : Env) (peer : PeerCred) (s : SessionId)
    (userName password : String) :
    ∀ event ∈ d.unlockAudit env peer s userName password,
      event.opensPrompt = false ∧ event.closesPrompt = false := by
  simp [unlockAudit, AuditEvent.withTarget, AuditEvent.new, AuditEvent.opensPrompt,
    AuditEvent.closesPrompt]

theorem startElevation_tracked (hfresh : d.elevation.pending.lookup (d.elevation.nextId + 1) = none)
    (connId : ConnId) (peer : PeerCred) (s : SessionId) (action : ElevationAction) :
    Tracked d.elevation (d.startElevationAudit env connId peer s action)
      (d.startElevation env connId s action).daemon.elevation := by
  rcases startElevation_audited d env connId peer s action with
    ⟨hdaemon, -, hquiet⟩ | ⟨conn, begun, event, hbegin, hdaemon, haudit, htarget, hopens, hcloses⟩
  · rw [hdaemon]
    exact Tracked.silent (fun _ => rfl) fun event h => AuditEvent.silent_of_isQuiet (hquiet event h)
  · obtain ⟨-, hid, hmanager⟩ := ElevationManager.begin_eq_ok_iff.1 hbegin
    rw [hdaemon, haudit, hmanager]
    rw [hid] at htarget
    exact Tracked.begun (p := ⟨s, conn, connId⟩) hfresh (fun k => Table.lookup_insert_eq ..)
      htarget hopens hcloses

theorem respondElevation_tracked (peer : PeerCred) (id : ElevationRequestId)
    (response : ElevationResponse) :
    Tracked d.elevation (d.respondElevationAudit env peer id response)
      (d.respondElevation env id response).daemon.elevation := by
  rcases respondElevation_audited d env peer id response with
    ⟨hdaemon, -, haudit⟩ | ⟨p, resolved, calls, hp, hsession, hterminal, hpending, -, haudit, -⟩
  · rw [hdaemon, haudit]
    exact tracked_seqClosed.refl _
  · rw [haudit]
    refine Tracked.answered hp (fun k => ?_) (by rw [← hsession]; rfl)
      (resolvedAudit_opens env peer id resolved)
    rw [hpending, resolvedAudit_closes, hterminal, Bool.not_not]

theorem terminateSession_tracked (peer : PeerCred) (s : SessionId) :
    Tracked d.elevation (d.terminateSessionAudit env peer s)
      (d.terminateSession s).daemon.elevation := by
  rcases terminateSession_audited d env peer s with
    ⟨hsame, haudit⟩ | ⟨event, hquiet, hdaemon, haudit⟩
  · rw [hsame, haudit]
    exact tracked_seqClosed.refl _
  · rw [hdaemon, haudit]
    have hended : Tracked d.elevation [event] d.elevation := Tracked.silent (fun _ => rfl)
      (List.forall_mem_singleton.2 (AuditEvent.silent_of_isQuiet hquiet))
    exact tracked_seqClosed.trans hended
      (Tracked.tornDown (d.elevation.abandonSession_tornDown s) env "session ended")

theorem dispatch_tracked (hfresh : d.elevation.pending.lookup (d.elevation.nextId + 1) = none)
    (connId : ConnId) (peer : PeerCred) (request : Request) :
    Tracked d.elevation (d.dispatchAudit env connId peer request)
      (d.dispatch env connId request).daemon.elevation := by
  have hsame : ∀ {events : List AuditEvent}, request.writesElevation = false →
      (∀ event ∈ events, event.opensPrompt = false ∧ event.closesPrompt = false) →
        Tracked d.elevation events (d.dispatch env connId request).daemon.elevation := by
    intro events hwrites hevents
    rw [dispatch_elevation connId hwrites]
    exact Tracked.silent (fun _ => rfl) hevents
  cases request with
  | createSession userName seatId sessionType =>
      exact hsame rfl fun event h => AuditEvent.silent_of_isQuiet
        (d.createSessionAudit_isQuiet env peer userName seatId sessionType event h)
  | terminateSession s => exact terminateSession_tracked peer s
  | lockSession s =>
      exact hsame rfl fun event h => AuditEvent.silent_of_isQuiet
        (d.lockSessionAudit_isQuiet env peer s event h)
  | unlock s userName password =>
      exact hsame rfl (d.unlockAudit_silent env peer s userName password)
  | requestElevation s action => exact startElevation_tracked hfresh connId peer s action
  | respondElevation id response => exact respondElevation_tracked peer id response
  | _ => exact hsame rfl (by simp [dispatchAudit])

theorem audit_rejected {cmd : ManagerCommand} {e : SessionError}
    (hauth : authorize env.userByName cmd.peer cmd.connId cmd.request d.sessions d.elevation
      = .error e) : d.audit env (.ipc (.command cmd)) = [] := by
  simp only [audit, handleCommandAudit, hauth]

theorem audit_authorized {cmd : ManagerCommand}
    (hauth : authorize env.userByName cmd.peer cmd.connId cmd.request d.sessions d.elevation
      = .ok ()) :
    d.audit env (.ipc (.command cmd)) = d.dispatchAudit env cmd.connId cmd.peer cmd.request := by
  simp only [audit, handleCommandAudit, hauth]

/-- **One event**: what it logs tells what became of the prompts. -/
theorem handle_tracked (hfresh : d.elevation.pending.lookup (d.elevation.nextId + 1) = none)
    (event : DaemonEvent) :
    Tracked d.elevation (d.audit env event) (d.handle env event).1.elevation := by
  match event with
  | .ipc (.connected connId peer outbox) => exact tracked_seqClosed.refl _
  | .ipc (.disconnected connId) =>
      exact Tracked.tornDown (d.elevation.abandonConnection_tornDown connId) env
        "a required connection disconnected"
  | .ipc (.command cmd) =>
      cases hauth : authorize env.userByName cmd.peer cmd.connId cmd.request d.sessions
          d.elevation with
      | error e =>
          rw [handle_rejected hauth, audit_rejected hauth]
          exact tracked_seqClosed.refl _
      | ok _ =>
          rw [handle_authorized hauth, audit_authorized hauth]
          exact dispatch_tracked hfresh cmd.connId cmd.peer cmd.request
  | .idleTick =>
      show Tracked d.elevation (d.onIdleTickAudit env) (d.onIdleTick env).1.elevation
      rw [onIdleTickAudit, staged_elevation, onIdleTick_elevation]
      have hlockouts : Tracked d.elevation [] (d.elevation.clearExpiredLockouts env.now) :=
        Tracked.silent (fun _ => rfl) (by simp)
      exact tracked_seqClosed.silent hlockouts (Tracked.tornDown
        ((d.elevation.clearExpiredLockouts env.now).expirePending_tornDown env.now) env
        "timed out waiting for a response")
  | .signal .terminate => exact tracked_seqClosed.refl _
  | .signal .reloadConfig =>
      refine Tracked.silent (fun k => ?_) (by simp [audit])
      simp only [handle, onSignal, reloadConfig]
      split
      · rfl
      · rfl
  | .signal (.reapChildren children) =>
      refine Tracked.silent (fun k => ?_) (by simp [audit])
      show (d.reapChildren children).1.elevation.pending.lookup k = _
      rw [reapChildren_elevation]

theorem Step.tracked {d d' : Daemon} {l : DaemonLabel} (hreach : Reachable d)
    (hstep : Step d l d') : Tracked d.elevation (auditOf ⟨d, l, d'⟩) d'.elevation := by
  cases hstep with
  | handled env event =>
      exact handle_tracked (AList.lookup_eq_none.2 hreach.nextId_notMem) event
  | rehash hr => exact Tracked.silent hr.elevation.pending.lookup_eq (by simp [auditOf])

theorem tracked_seqClosed_daemon : SeqClosed fun (d : Daemon) (events : List AuditEvent)
    (d' : Daemon) => Tracked d.elevation events d'.elevation :=
  ⟨fun d => tracked_seqClosed.refl d.elevation, tracked_seqClosed.trans⟩

/-- **The trail knows the open prompts.** After any run, the trail it left says that a prompt of a
    session is open if and only if it is. -/
theorem prompts_on_trail {d₀ d : Daemon} {tr : List (Transition Daemon DaemonLabel)}
    (hinit : Initial d₀) (hrun : Run Step d₀ tr d) (s : SessionId) (id : ElevationRequestId) :
    promptOpen (trail tr) (promptTarget s id) = true
      ↔ ∃ p, d.elevation.pending.lookup id = some p ∧ p.sessionId = s := by
  have htracked : Tracked d₀.elevation (trail tr) d.elevation :=
    hrun.output tracked_seqClosed_daemon fun tr s l s' hpre hstep =>
      Step.tracked ⟨d₀, tr, hinit, hpre⟩ hstep
  have hnone : d₀.elevation.isOpen s id = false := by
    obtain ⟨_, _, _, _, _, _, rfl⟩ := hinit.eq
    rfl
  rw [promptOpen, ← hnone, htracked s id, ElevationManager.isOpen_iff]

section Example

/-- The requester asks for a prompt on Alice's compositor, and then comes something else. -/
private def promptedThen (later : List (Env × DaemonEvent)) : List (Env × DaemonEvent) :=
  demoThen ([(demoEnv 0, demoConnect 9 900),
    (demoEnv 0, .ipc (.command (demoCommand 9 900
      (.requestElevation 1 ⟨"editor", "save a file", .elevated, ""⟩))))] ++ later)

/-- The requester hangs up: the trail says that the prompt was open, and that it is no longer. -/
theorem prompts_on_trail_hangup :
    promptOpen (trail (demoTrace (promptedThen []))) (promptTarget 1 1) = true
      ∧ promptOpen (trail (demoTrace (promptedThen [(demoEnv 0, .ipc (.disconnected 9))])))
        (promptTarget 1 1) = false := by
  refine ⟨(prompts_on_trail demo_initial (demoTrace_run (by decide)) 1 1).2
    ⟨⟨1, 7, 9⟩, by decide, rfl⟩, ?_⟩
  rw [Bool.eq_false_iff, ne_eq,
    prompts_on_trail demo_initial (demoTrace_run (by decide)) 1 1]
  rintro ⟨p, hp, -⟩
  have hnone : AList.lookup 1 (System.demo.replay (promptedThen
      [(demoEnv 0, .ipc (.disconnected 9))])).daemon.elevation.pending = none := by decide
  rw [hnone] at hp
  cases hp

end Example

end Daemon

/-! ## Credentials and the trail -/

/-- The credential that an effect says was accepted. -/
def Effect.accepted : Effect → Option AuthRequest
  | .authenticate _ request true => some request
  | _ => none

/-- The credentials accepted among the effects are what the events say, one by one. -/
def Recorded (effects : List Effect) (events : List AuditEvent) : Prop :=
  List.Forall₂ (fun request event => event.IsAbout request)
    (effects.filterMap Effect.accepted) (events.filter AuditEvent.grantsAccess)

theorem Recorded.append {effects effects' : List Effect} {events events' : List AuditEvent}
    (h : Recorded effects events) (h' : Recorded effects' events') :
    Recorded (effects ++ effects') (events ++ events') := by
  unfold Recorded
  rw [List.filterMap_append, List.filter_append]
  exact List.rel_append h h'

/-- No credential was checked, and none is said to be accepted. -/
theorem Recorded.none (topics : List Topic) {effects : List Effect} {events : List AuditEvent}
    (heffects : About topics effects) (hnot : .credential ∉ topics)
    (hevents : ∀ event ∈ events, event.grantsAccess = false) : Recorded effects events := by
  have haccepted : effects.filterMap Effect.accepted = [] := by
    rw [List.filterMap_eq_nil_iff]
    intro e he
    cases e with
    | authenticate service request accepted => exact absurd (heffects _ he) hnot
    | _ => rfl
  have hgrants : events.filter AuditEvent.grantsAccess = [] :=
    List.filter_eq_nil_iff.2 fun event hevent => by simp [hevents event hevent]
  rw [Recorded, haccepted, hgrants]
  exact List.Forall₂.nil

namespace Daemon

variable {d : Daemon} {env : Env}

/-- One credential was checked, and one event logged that says whether it was accepted. -/
theorem Recorded.checked {request : AuthRequest} {event : AuditEvent}
    (hgrants : event.grantsAccess = true
      ↔ (d.authenticator.authenticate env.pam).accepts request = true)
    (habout : event.IsAbout request) : Recorded (d.authEffects env [request]) [event] := by
  cases haccepts : (d.authenticator.authenticate env.pam).accepts request with
  | true =>
      have hgrant := hgrants.2 haccepts
      simp [Recorded, authEffects, haccepts, Effect.accepted, hgrant, habout]
  | false =>
      have hgrant : event.grantsAccess = false := by
        rw [Bool.eq_false_iff, ne_eq, hgrants, haccepts]
        decide
      simp [Recorded, authEffects, haccepts, Effect.accepted, hgrant]

/-- An attempt to unlock, whether or not it was locked out, logs its one outcome. -/
theorem unlockAudit_eq (d : Daemon) (env : Env) (peer : PeerCred) (s : SessionId)
    (userName password : String) :
    ∃ event : AuditEvent, d.unlockAudit env peer s userName password = [event]
      ∧ event.IsAbout ⟨s, userName, password⟩
      ∧ (event.grantsAccess = true
        ↔ (d.unlockAttempt env s userName password).outcome = .success) :=
  ⟨_, rfl, Or.inl ⟨rfl, rfl⟩, AuditEvent.grantsAccess_iff (Or.inl rfl) rfl⟩

theorem abandonedAudit_grants (env : Env) (reason : String)
    (abandoned : List AbandonedElevation) :
    ∀ event ∈ abandoned.map (abandonedAudit env reason), event.grantsAccess = false := by
  simp [abandonedAudit, AuditEvent.withTarget, AuditEvent.new, AuditEvent.grantsAccess]

theorem terminateSession_grants (peer : PeerCred) (s : SessionId) :
    ∀ event ∈ d.terminateSessionAudit env peer s, event.grantsAccess = false := by
  rcases terminateSession_audited d env peer s with
    ⟨-, haudit⟩ | ⟨event, hquiet, -, haudit⟩
  · simp [haudit]
  · rw [haudit]
    exact List.forall_mem_cons.2 ⟨AuditEvent.grants_of_isQuiet hquiet,
      abandonedAudit_grants env "session ended" _⟩

theorem startElevation_grants (connId : ConnId) (peer : PeerCred) (s : SessionId)
    (action : ElevationAction) :
    ∀ event ∈ d.startElevationAudit env connId peer s action, event.grantsAccess = false := by
  rcases startElevation_audited d env connId peer s action with
    ⟨-, -, hquiet⟩ | ⟨conn, begun, event, -, -, haudit, -, hopens, -⟩
  · exact fun event h => AuditEvent.grants_of_isQuiet (hquiet event h)
  · rw [haudit]
    exact List.forall_mem_singleton.2 (AuditEvent.grants_of_opens hopens)

theorem unlock_effects (d : Daemon) (env : Env) (s : SessionId) (userName password : String) :
    ∃ event, event.topic = .lockScreen ∧ (d.unlock env s userName password).effects
      = d.authEffects env (d.unlockAttempt env s userName password).calls ++ d.tells s event := by
  by_cases hs : (d.unlockAttempt env s userName password).outcome = .success
  · exact ⟨.hideLockScreen s, rfl, by rw [unlock_success hs]⟩
  · exact ⟨.authFeedback s (d.unlockAttempt env s userName password).outcome, rfl,
      by rw [unlock_failure hs]⟩

theorem unlock_recorded (peer : PeerCred) (s : SessionId) (userName password : String) :
    Recorded (d.unlock env s userName password).effects
      (d.unlockAudit env peer s userName password) := by
  obtain ⟨event, haudit, habout, hgrants⟩ :=
    unlockAudit_eq d env peer s userName password
  obtain ⟨told, htold, heffects⟩ := unlock_effects d env s userName password
  rw [heffects, haudit]
  have htells : Recorded (d.tells s told) [] :=
    Recorded.none [.lockScreen]
      (tells_about (htold ▸ List.mem_singleton_self _)) (by simp) (by simp)
  have hcall : Recorded
      (d.authEffects env (d.unlockAttempt env s userName password).calls) [event] := by
    rw [unlockAttempt_success_iff] at hgrants
    rw [unlockAttempt, attemptUnlock_asks]
    by_cases hout : (d.locks.entry s).state = .lockedOut
    · rw [if_pos hout]
      refine Recorded.none [] about_nil (by simp) (List.forall_mem_singleton.2 ?_)
      rw [Bool.eq_false_iff, ne_eq, hgrants]
      exact fun h => h.1 hout
    · rw [if_neg hout]
      exact Recorded.checked (hgrants.trans (and_iff_right hout)) habout
  exact hcall.append htells

theorem respondElevation_recorded (peer : PeerCred) (id : ElevationRequestId)
    (response : ElevationResponse) :
    Recorded (d.respondElevation env id response).effects
      (d.respondElevationAudit env peer id response) := by
  rcases respondElevation_audited d env peer id response with
    ⟨-, heffects, haudit⟩ | ⟨p, resolved, calls, hp, hsession, -, -, heffects, haudit, hcalls⟩
  · rw [heffects, haudit]
    exact List.Forall₂.nil
  · rw [heffects, haudit]
    have hreport : Recorded (d.reportElevation id resolved) [] :=
      Recorded.none _ (reportElevation_about id resolved) (by simp) (by simp)
    have hcall : Recorded (d.authEffects env calls) [resolvedAudit env peer id resolved] := by
      rcases hcalls with ⟨rfl, hfailed⟩ | ⟨request, rfl, hrequest, hsuccess⟩
      · refine Recorded.none [] about_nil (by simp) (List.forall_mem_singleton.2 ?_)
        rw [Bool.eq_false_iff, ne_eq, resolvedAudit_grants]
        exact hfailed
      · exact Recorded.checked (resolvedAudit_grants.trans hsuccess)
          (Or.inr ⟨rfl, id, by rw [hrequest, ← hsession]; rfl⟩)
    exact hcall.append hreport

theorem dispatch_recorded (connId : ConnId) (peer : PeerCred) (request : Request) :
    Recorded (d.dispatch env connId request).effects
      (d.dispatchAudit env connId peer request) := by
  have hnone : ∀ {events : List AuditEvent}, Topic.credential ∉ request.topics →
      (∀ event ∈ events, event.grantsAccess = false) →
        Recorded (d.dispatch env connId request).effects events := fun hnot hevents =>
    Recorded.none _ (dispatch_about connId request) hnot hevents
  cases request with
  | createSession userName seatId sessionType =>
      exact hnone (by simp [Request.topics]) fun event h => AuditEvent.grants_of_isQuiet
        (d.createSessionAudit_isQuiet env peer userName seatId sessionType event h)
  | terminateSession s => exact hnone (by simp [Request.topics]) (terminateSession_grants peer s)
  | lockSession s =>
      exact hnone (by simp [Request.topics]) fun event h => AuditEvent.grants_of_isQuiet
        (d.lockSessionAudit_isQuiet env peer s event h)
  | unlock s userName password => exact unlock_recorded peer s userName password
  | requestElevation s action =>
      exact hnone (by simp [Request.topics]) (startElevation_grants connId peer s action)
  | respondElevation id response => exact respondElevation_recorded peer id response
  | _ => exact hnone (by simp [Request.topics]) (by simp [dispatchAudit])

/-- **One event**: what it logs says which credentials it found right. -/
theorem handle_recorded (event : DaemonEvent) :
    Recorded (d.handle env event).2 (d.audit env event) := by
  have hnone : Topic.credential ∉ event.topics →
      (∀ logged ∈ d.audit env event, logged.grantsAccess = false) →
        Recorded (d.handle env event).2 (d.audit env event) := fun hnot hevents =>
    Recorded.none _ (handle_topics d env event) hnot hevents
  match event with
  | .ipc (.connected connId peer outbox) => exact List.Forall₂.nil
  | .ipc (.disconnected connId) =>
      exact hnone (by simp [DaemonEvent.topics]) (abandonedAudit_grants _ _ _)
  | .ipc (.command cmd) =>
      cases hauth : authorize env.userByName cmd.peer cmd.connId cmd.request d.sessions
          d.elevation with
      | error e =>
          rw [handle_rejected hauth, audit_rejected hauth]
          exact Recorded.none [.reply] (by simp [ConnRegistry.sendResponse,
            Effect.topic]) (by simp) (by simp)
      | ok _ =>
          rw [handle_authorized hauth, audit_authorized hauth]
          have hreply : ∀ (registry : ConnRegistry) (response : Option Response),
              Recorded (response.map (registry.sendResponse cmd.connId)).toList [] := by
            intro registry response
            refine Recorded.none [.reply] ?_ (by simp) (by simp)
            cases response with
            | none => simp
            | some response => simp [ConnRegistry.sendResponse, Effect.topic]
          rw [← List.append_nil (d.dispatchAudit env cmd.connId cmd.peer cmd.request)]
          exact (dispatch_recorded cmd.connId cmd.peer cmd.request).append (hreply _ _)
  | .idleTick => exact hnone (by simp [DaemonEvent.topics]) (abandonedAudit_grants _ _ _)
  | .signal .terminate => exact List.Forall₂.nil
  | .signal .reloadConfig => exact List.Forall₂.nil
  | .signal (.reapChildren children) =>
      exact hnone (by simp [DaemonEvent.topics]) (by simp [audit])

/-- **Every grant is on the trail.** Along any run, the credentials that the authenticator accepted
    and the events of the trail that say `Success` go one to one, in order; each event names the
    account, or the session, of its credential. -/
theorem grants_on_trail {d₀ d : Daemon} {tr : List (Transition Daemon DaemonLabel)}
    (hrun : Run Step d₀ tr d) :
    List.Forall₂ (fun request event => event.IsAbout request)
      ((tr.flatMap fun x => x.label.effects).filterMap Effect.accepted)
      ((trail tr).filter AuditEvent.grantsAccess) := by
  refine hrun.history (P := fun tr _ => Recorded (tr.flatMap fun x => x.label.effects) (trail tr))
    List.Forall₂.nil ?_
  intro tr d l d' hpre hsofar hstep
  rw [trail, List.flatMap_append, List.flatMap_append, List.flatMap_singleton,
    List.flatMap_singleton]
  refine hsofar.append ?_
  cases hstep with
  | handled env event => exact handle_recorded event
  | rehash hr => exact List.Forall₂.nil

section Example

/-- Alice locks her session, mistypes her password, and then types it right. -/
private def unlockedAgain : List (Env × DaemonEvent) :=
  demoThen [(demoEnv 0, .ipc (.command (demoCommand 7 1000 (.lockSession 1)))),
    (demoEnv 0, .ipc (.command (demoCommand 7 1000 (.unlock 1 "alice" "hunter3")))),
    (demoEnv 0, .ipc (.command (demoCommand 7 1000 (.unlock 1 "alice" "hunter2"))))]

/-- One of the two attempts is on the trail as a success. -/
theorem grants_on_trail_unlock :
    ∃ event, (trail (demoTrace unlockedAgain)).filter AuditEvent.grantsAccess = [event]
      ∧ event.IsAbout ⟨1, "alice", "hunter2"⟩ := by
  have hrun : Run Step demo (demoTrace unlockedAgain) _ := demoTrace_run (by decide)
  have hgrants := grants_on_trail hrun
  have haccepted : ((demoTrace unlockedAgain).flatMap fun x => x.label.effects).filterMap
      Effect.accepted = [⟨1, "alice", "hunter2"⟩] := by decide
  rw [haccepted] at hgrants
  obtain ⟨event, rest, habout, hrest, hevents⟩ := List.forall₂_cons_left_iff.1 hgrants
  obtain rfl := List.forall₂_nil_left_iff.1 hrest
  exact ⟨event, hevents, habout⟩

end Example

end Daemon

end MitosSession
