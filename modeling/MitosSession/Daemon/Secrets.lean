import MitosSession.Elevation.Lockout
import MitosSession.Daemon.Topics

set_option autoImplicit false

/-! # Passwords go nowhere

A password comes in with `Unlock` or with the answer to an elevation prompt, and its only use is
the one call of the authenticator. `Daemon.asks` is the credential that an event hands over;
`passwords_confined` says that the daemon's state and everything else it does depend on the
password only through the authenticator's verdict on it, and not even on that where the
authenticator is not asked: while the session is locked out, or when the command is refused. -/

namespace MitosSession

/-! ## Blanking passwords -/

def AuthRequest.redacted (self : AuthRequest) : AuthRequest :=
  { self with password := "" }

def ElevationResponse.redacted : ElevationResponse → ElevationResponse
  | .password _ => .password ""
  | .cancelled => .cancelled

def Request.redacted : Request → Request
  | .unlock sessionId userName _ => .unlock sessionId userName ""
  | .respondElevation requestId response => .respondElevation requestId response.redacted
  | request => request

def DaemonEvent.redacted : DaemonEvent → DaemonEvent
  | .ipc (.command cmd) => .ipc (.command { cmd with request := cmd.request.redacted })
  | event => event

def Effect.redacted : Effect → Effect
  | .authenticate service request accepted => .authenticate service request.redacted accepted
  | effect => effect

/-- The same surroundings, but for what PAM says. -/
def Env.withPam (self : Env) (pam : PamStack) : Env :=
  { self with pam }

/-- The credential a call of the authenticator was about. -/
def Effect.credential : Effect → Option AuthRequest
  | .authenticate _ request _ => some request
  | _ => none

theorem ElevationResponse.eq_of_redacted {response response' : ElevationResponse}
    (h : response.redacted = response'.redacted) :
    response' = response ∨ ∃ password password', response = .password password
      ∧ response' = .password password' := by
  cases response with
  | password password =>
      cases response' with
      | password password' => exact Or.inr ⟨password, password', rfl, rfl⟩
      | cancelled => cases h
  | cancelled =>
      cases response' with
      | password password' => cases h
      | cancelled => exact Or.inl rfl

/-- Requests that are the same but for the password. -/
theorem Request.eq_of_redacted {request request' : Request}
    (h : request.redacted = request'.redacted) :
    (request' = request)
      ∨ (∃ sessionId userName password password',
        request = .unlock sessionId userName password
          ∧ request' = .unlock sessionId userName password')
      ∨ ∃ requestId password password',
        request = .respondElevation requestId (.password password)
          ∧ request' = .respondElevation requestId (.password password') := by
  cases request with
  | unlock sessionId userName password =>
      cases request' <;> simp only [redacted, reduceCtorEq] at h
      cases h
      exact Or.inr (Or.inl ⟨_, _, _, _, rfl, rfl⟩)
  | respondElevation requestId response =>
      cases request' <;>
        simp only [redacted, reduceCtorEq, respondElevation.injEq] at h
      obtain ⟨rfl, hresponse⟩ := h
      rcases ElevationResponse.eq_of_redacted hresponse with rfl | ⟨_, _, rfl, rfl⟩
      · exact Or.inl rfl
      · exact Or.inr (Or.inr ⟨_, _, _, rfl, rfl⟩)
  | _ =>
      left
      cases request' <;> first | exact h.symm | cases h

/-- Events that are the same but for the password. -/
theorem DaemonEvent.eq_of_redacted {event event' : DaemonEvent}
    (h : event.redacted = event'.redacted) :
    event' = event
      ∨ ∃ connId peer request request', request.redacted = request'.redacted
        ∧ event = .ipc (.command ⟨connId, peer, request⟩)
        ∧ event' = .ipc (.command ⟨connId, peer, request'⟩) := by
  unfold redacted at h
  split at h
  · rename_i cmd
    split at h
    · rename_i cmd'
      obtain ⟨connId, peer, request⟩ := cmd
      obtain ⟨connId', peer', request'⟩ := cmd'
      simp only [ipc.injEq, ManagerMessage.command.injEq, ManagerCommand.mk.injEq] at h
      obtain ⟨rfl, rfl, hrequest⟩ := h
      exact Or.inr ⟨_, _, _, _, hrequest, rfl, rfl⟩
    · rename_i hother
      exact absurd h.symm (hother _)
  · rename_i hother
    split at h
    · exact absurd h (hother _)
    · exact Or.inl h.symm

/-- `authorize` does not look at passwords. -/
theorem authorize_redacted (userByName : String → Result User) (peer : PeerCred) (connId : ConnId)
    (request : Request) (sessions : SessionManager) (elevation : ElevationManager) :
    authorize userByName peer connId request.redacted sessions elevation
      = authorize userByName peer connId request sessions elevation := by
  cases request <;> rfl

namespace Daemon

/-! ## Which credential is checked -/

/-- The credential that a request hands to the authenticator, if it hands it one. -/
def asksFor (self : Daemon) : Request → Option AuthRequest
  | .unlock sessionId userName password =>
    if (self.locks.entry sessionId).state = .lockedOut then none
    else some { sessionId, userName, password }
  | .respondElevation requestId (.password password) =>
    match self.elevation.peek requestId with
    | none => none
    | some info =>
      match self.sessions.get info.sessionId with
      | .error _ => none
      | .ok ctx => some { sessionId := info.sessionId, userName := ctx.session.userName, password }
  | _ => none

/-- The credential that handling an event hands to the authenticator. -/
def asks (self : Daemon) (env : Env) : DaemonEvent → Option AuthRequest
  | .ipc (.command cmd) =>
    match authorize env.userByName cmd.peer cmd.connId cmd.request self.sessions self.elevation with
    | .error _ => none
    | .ok () => self.asksFor cmd.request
  | _ => none

/-- What the authenticator says to it. -/
def verdict (self : Daemon) (env : Env) (event : DaemonEvent) : Option Bool :=
  (self.asks env event).map (self.authenticator.authenticate env.pam).accepts

variable {d : Daemon} {env : Env} {pam : PamStack} {event event' : DaemonEvent}

/-! ## The calls of the authenticator -/

/-- `calls`, with passwords blanked and the verdict on each, as effects. -/
theorem authEffects_redacted {calls calls' : List AuthRequest}
    (h : calls.map (fun request =>
        (request.redacted, (d.authenticator.authenticate env.pam).accepts request))
      = calls'.map fun request =>
        (request.redacted, (d.authenticator.authenticate pam).accepts request)) :
    (d.authEffects env calls).map Effect.redacted
      = (d.authEffects (env.withPam pam) calls').map Effect.redacted := by
  have hmap := congrArg (List.map fun x : AuthRequest × Bool =>
    Effect.authenticate d.authenticator.service x.1 x.2) h
  rw [List.map_map, List.map_map] at hmap
  rw [authEffects, authEffects, List.map_map, List.map_map]
  exact hmap

theorem authEffects_credential (calls : List AuthRequest) :
    (d.authEffects env calls).filterMap Effect.credential = calls := by
  induction calls with
  | nil => rfl
  | cons request rest ih => exact congrArg (request :: ·) ih

theorem credential_of_about {topics : List Topic} {effects : List Effect}
    (h : About topics effects) (hnot : .credential ∉ topics) :
    effects.filterMap Effect.credential = [] := by
  rw [List.filterMap_eq_nil_iff]
  intro e he
  cases e with
  | authenticate service request accepted => exact absurd (h _ he) hnot
  | _ => rfl

/-- An attempt to unlock, under two passwords that the authenticators judge alike. -/
theorem attemptUnlock_alike (m : LockManager) {auth auth' : Authenticator} {s : SessionId}
    {userName password password' : String} (policy : AuthPolicy) (now : Instant)
    (h : (m.entry s).state = .lockedOut
      ∨ auth.accepts ⟨s, userName, password⟩ = auth'.accepts ⟨s, userName, password'⟩) :
    (m.attemptUnlock auth ⟨s, userName, password⟩ policy now).manager
        = (m.attemptUnlock auth' ⟨s, userName, password'⟩ policy now).manager
      ∧ (m.attemptUnlock auth ⟨s, userName, password⟩ policy now).outcome
        = (m.attemptUnlock auth' ⟨s, userName, password'⟩ policy now).outcome := by
  by_cases hout : (m.entry s).state = .lockedOut
  · rw [m.attemptUnlock_refused _ _ policy now hout, m.attemptUnlock_refused _ _ policy now hout]
    exact ⟨rfl, rfl⟩
  · have hsame := h.resolve_left hout
    cases haccepts : auth.accepts ⟨s, userName, password⟩ with
    | true =>
        rw [m.attemptUnlock_accepted _ _ policy now hout haccepts,
          m.attemptUnlock_accepted _ _ policy now hout (hsame ▸ haccepts)]
        exact ⟨rfl, rfl⟩
    | false =>
        rw [m.attemptUnlock_rejected _ _ policy now hout haccepts,
          m.attemptUnlock_rejected _ _ policy now hout (hsame ▸ haccepts)]
        dsimp only
        split
        · exact ⟨rfl, rfl⟩
        · exact ⟨rfl, rfl⟩

theorem attemptUnlock_asks (m : LockManager) (auth : Authenticator) (request : AuthRequest)
    (policy : AuthPolicy) (now : Instant) :
    (m.attemptUnlock auth request policy now).calls
      = if (m.entry request.sessionId).state = .lockedOut then [] else [request] := by
  by_cases hout : (m.entry request.sessionId).state = .lockedOut
  · rw [m.attemptUnlock_refused _ _ policy now hout, if_pos hout]
  · rw [if_neg hout]
    cases haccepts : auth.accepts request with
    | true => rw [m.attemptUnlock_accepted _ _ policy now hout haccepts]
    | false =>
        rw [m.attemptUnlock_rejected _ _ policy now hout haccepts]
        split
        · rfl
        · rfl

/-- An answer to a prompt, under two passwords that the authenticators judge alike. -/
theorem attempt_alike (m : ElevationManager) (id : ElevationRequestId) {auth auth' : Authenticator}
    {request request' : AuthRequest} (policy : AuthPolicy) (now : Instant)
    (h : auth.accepts request = auth'.accepts request') :
    (m.attempt id auth request policy now).map (fun attempt => (attempt.manager, attempt.resolved))
      = (m.attempt id auth' request' policy now).map fun attempt =>
        (attempt.manager, attempt.resolved) := by
  cases hp : m.pending.lookup id with
  | none => simp [ElevationManager.attempt, hp]
  | some p =>
      cases haccepts : auth.accepts request with
      | true =>
          rw [ElevationManager.attempt_accepted policy now hp haccepts,
            ElevationManager.attempt_accepted policy now hp (h ▸ haccepts)]
          rfl
      | false =>
          rw [ElevationManager.attempt_rejected policy now hp haccepts,
            ElevationManager.attempt_rejected policy now hp (h ▸ haccepts)]
          split
          · rfl
          · rfl

/-- An answer to an open prompt is an attempt. -/
theorem attempt_of_pending (m : ElevationManager) {id : ElevationRequestId} {p : PendingElevation}
    (auth : Authenticator) (request : AuthRequest) (policy : AuthPolicy) (now : Instant)
    (hp : m.pending.lookup id = some p) :
    ∃ attempt, m.attempt id auth request policy now = some attempt := by
  cases haccepts : auth.accepts request with
  | true =>
      rw [ElevationManager.attempt_accepted policy now hp haccepts]
      exact ⟨_, rfl⟩
  | false =>
      rw [ElevationManager.attempt_rejected policy now hp haccepts]
      split
      · exact ⟨_, rfl⟩
      · exact ⟨_, rfl⟩

/-! ## Handlers -/

theorem unlock_redacted {s : SessionId} {userName password password' : String}
    (h : (d.locks.entry s).state = .lockedOut
      ∨ (d.authenticator.authenticate env.pam).accepts ⟨s, userName, password⟩
        = (d.authenticator.authenticate pam).accepts ⟨s, userName, password'⟩) :
    (d.unlock env s userName password).daemon
        = (d.unlock (env.withPam pam) s userName password').daemon
      ∧ (d.unlock env s userName password).response
        = (d.unlock (env.withPam pam) s userName password').response
      ∧ (d.unlock env s userName password).effects.map Effect.redacted
        = (d.unlock (env.withPam pam) s userName password').effects.map Effect.redacted := by
  obtain ⟨hmanager, houtcome⟩ := attemptUnlock_alike d.locks
    (authPolicy d.settings.authentication d.settings.lock) env.now h
  have hcalls : (d.authEffects env (d.locks.attemptUnlock (d.authenticator.authenticate env.pam)
        ⟨s, userName, password⟩ (authPolicy d.settings.authentication d.settings.lock)
        env.now).calls).map Effect.redacted
      = (d.authEffects (env.withPam pam) (d.locks.attemptUnlock
        (d.authenticator.authenticate pam) ⟨s, userName, password'⟩
        (authPolicy d.settings.authentication d.settings.lock) env.now).calls).map
          Effect.redacted := by
    refine authEffects_redacted ?_
    rw [attemptUnlock_asks, attemptUnlock_asks]
    split
    · rfl
    · rename_i hopen
      simp only [List.map_cons, List.map_nil, h.resolve_left hopen]
      rfl
  unfold unlock
  dsimp only [Env.withPam] at hcalls ⊢
  rw [← hmanager, ← houtcome]
  split
  · refine ⟨rfl, rfl, ?_⟩
    rw [List.map_append, List.map_append]
    exact congrArg (· ++ _) hcalls
  · refine ⟨rfl, rfl, ?_⟩
    rw [List.map_append, List.map_append]
    exact congrArg (· ++ _) hcalls

theorem respondElevation_redacted {id : ElevationRequestId} {password password' : String}
    (h : (d.asksFor (.respondElevation id (.password password))).map
        (d.authenticator.authenticate env.pam).accepts
      = (d.asksFor (.respondElevation id (.password password'))).map
        (d.authenticator.authenticate pam).accepts) :
    (d.respondElevation env id (.password password)).daemon
        = (d.respondElevation (env.withPam pam) id (.password password')).daemon
      ∧ (d.respondElevation env id (.password password)).response
        = (d.respondElevation (env.withPam pam) id (.password password')).response
      ∧ (d.respondElevation env id (.password password)).effects.map Effect.redacted
        = (d.respondElevation (env.withPam pam) id (.password password')).effects.map
          Effect.redacted := by
  unfold asksFor at h
  unfold respondElevation
  cases hpeek : d.elevation.peek id with
  | none => exact ⟨rfl, rfl, rfl⟩
  | some info =>
      simp only [hpeek] at h
      dsimp only
      cases hget : d.sessions.get info.sessionId with
      | error e => exact ⟨rfl, rfl, rfl⟩
      | ok ctx =>
          simp only [hget, Option.map_some, Option.some.injEq] at h
          have halike := attempt_alike d.elevation id
            (elevationAuthPolicy d.settings.elevation) env.now h
          dsimp only [Env.withPam]
          cases hattempt : d.elevation.attempt id (d.authenticator.authenticate env.pam)
              ⟨info.sessionId, ctx.session.userName, password⟩
              (elevationAuthPolicy d.settings.elevation) env.now with
          | none =>
              rw [hattempt, Option.map_none, eq_comm, Option.map_eq_none_iff] at halike
              rw [halike]
              exact ⟨rfl, rfl, rfl⟩
          | some attempt =>
              rw [hattempt, Option.map_some, eq_comm, Option.map_eq_some_iff] at halike
              obtain ⟨attempt', hattempt', hsame⟩ := halike
              obtain ⟨hmanager, hresolved⟩ := Prod.mk.inj hsame
              obtain ⟨p, hp⟩ := ElevationManager.attempt_eq_some _ _ hattempt
              rw [hattempt']
              dsimp only
              rw [← hmanager, ← hresolved]
              refine ⟨rfl, rfl, ?_⟩
              rw [List.map_append, List.map_append]
              refine congrArg (· ++ _) (authEffects_redacted ?_)
              rw [(ElevationManager.attempt_calls hp hattempt).1,
                (ElevationManager.attempt_calls hp hattempt').1, List.map_singleton,
                List.map_singleton, h]
              rfl

/-- A request under two passwords that the authenticators judge alike. -/
theorem dispatch_redacted (connId : ConnId) {request request' : Request}
    (hsame : request.redacted = request'.redacted)
    (h : (d.asksFor request).map (d.authenticator.authenticate env.pam).accepts
      = (d.asksFor request').map (d.authenticator.authenticate pam).accepts) :
    (d.dispatch env connId request).daemon
        = (d.dispatch (env.withPam pam) connId request').daemon
      ∧ (d.dispatch env connId request).response
        = (d.dispatch (env.withPam pam) connId request').response
      ∧ (d.dispatch env connId request).effects.map Effect.redacted
        = (d.dispatch (env.withPam pam) connId request').effects.map Effect.redacted := by
  have hunlock : ∀ (s : SessionId) (userName password password' : String),
      (d.asksFor (.unlock s userName password)).map (d.authenticator.authenticate env.pam).accepts
        = (d.asksFor (.unlock s userName password')).map
          (d.authenticator.authenticate pam).accepts →
      (d.locks.entry s).state = .lockedOut
        ∨ (d.authenticator.authenticate env.pam).accepts ⟨s, userName, password⟩
          = (d.authenticator.authenticate pam).accepts ⟨s, userName, password'⟩ := by
    intro s userName password password' hasks
    simp only [asksFor] at hasks
    by_cases hout : (d.locks.entry s).state = .lockedOut
    · exact Or.inl hout
    · rw [if_neg hout, if_neg hout] at hasks
      exact Or.inr (Option.some.inj hasks)
  rcases Request.eq_of_redacted hsame with
    rfl | ⟨s, userName, password, password', rfl, rfl⟩ | ⟨id, password, password', rfl, rfl⟩
  · cases request' with
    | unlock s userName password => exact unlock_redacted (hunlock s userName _ _ h)
    | respondElevation id response =>
        cases response with
        | password password => exact respondElevation_redacted h
        | cancelled => exact ⟨rfl, rfl, rfl⟩
    | _ => exact ⟨rfl, rfl, rfl⟩
  · exact unlock_redacted (hunlock s userName _ _ h)
  · exact respondElevation_redacted h

/-- A command under two passwords that the authenticators judge alike. -/
theorem handleCommand_redacted {connId : ConnId} {peer : PeerCred} {request request' : Request}
    (hsame : request.redacted = request'.redacted)
    (h : d.verdict env (.ipc (.command ⟨connId, peer, request⟩))
      = d.verdict (env.withPam pam) (.ipc (.command ⟨connId, peer, request'⟩))) :
    (d.handleCommand env ⟨connId, peer, request⟩).1
        = (d.handleCommand (env.withPam pam) ⟨connId, peer, request'⟩).1
      ∧ (d.handleCommand env ⟨connId, peer, request⟩).2.map Effect.redacted
        = (d.handleCommand (env.withPam pam) ⟨connId, peer, request'⟩).2.map Effect.redacted := by
  have hauthorize : authorize env.userByName peer connId request' d.sessions d.elevation
      = authorize env.userByName peer connId request d.sessions d.elevation := by
    rw [← authorize_redacted, ← hsame, authorize_redacted]
  simp only [verdict, asks, Env.withPam, hauthorize] at h
  simp only [handleCommand, Env.withPam, hauthorize]
  split
  · exact ⟨rfl, rfl⟩
  · rename_i hallowed
    simp only [hallowed] at h
    obtain ⟨hdaemon, hresponse, heffects⟩ := dispatch_redacted connId hsame h
    simp only [Env.withPam] at hdaemon hresponse heffects
    refine ⟨hdaemon, ?_⟩
    rw [List.map_append, List.map_append, heffects, hresponse, hdaemon]

/-- **One event**, under two passwords that the authenticators judge alike. -/
theorem handle_redacted (hsame : event.redacted = event'.redacted)
    (h : d.verdict env event = d.verdict (env.withPam pam) event') :
    (d.handle env event).1 = (d.handle (env.withPam pam) event').1
      ∧ (d.handle env event).2.map Effect.redacted
        = (d.handle (env.withPam pam) event').2.map Effect.redacted := by
  rcases DaemonEvent.eq_of_redacted hsame with
    rfl | ⟨connId, peer, request, request', hrequest, rfl, rfl⟩
  · match event' with
    | .ipc (.connected connId peer outbox) => exact ⟨rfl, rfl⟩
    | .ipc (.disconnected connId) => exact ⟨rfl, rfl⟩
    | .ipc (.command ⟨connId, peer, request⟩) => exact handleCommand_redacted rfl h
    | .idleTick => exact ⟨rfl, rfl⟩
    | .signal event => exact ⟨rfl, rfl⟩
  · exact handleCommand_redacted hrequest h

/-! ## What reaches the authenticator -/

theorem unlock_credentials (s : SessionId) (userName password : String) :
    (d.unlock env s userName password).effects.filterMap Effect.credential
      = (d.asksFor (.unlock s userName password)).toList := by
  have hcalls : (d.unlockAttempt env s userName password).calls
      = (d.asksFor (.unlock s userName password)).toList := by
    rw [unlockAttempt, attemptUnlock_asks, asksFor]
    split
    · rfl
    · rfl
  have htold : ∀ event : Event, event.topic = .lockScreen →
      (d.tells s event).filterMap Effect.credential = [] := by
    intro event htopic
    have habout : About [.lockScreen] (d.tells s event) := tells_about (by simp [htopic])
    exact credential_of_about habout (by simp)
  by_cases hs : (d.unlockAttempt env s userName password).outcome = .success
  · rw [unlock_success hs, List.filterMap_append, authEffects_credential, htold _ rfl,
      List.append_nil, hcalls]
  · rw [unlock_failure hs, List.filterMap_append, authEffects_credential, htold _ rfl,
      List.append_nil, hcalls]

theorem respondElevation_credentials (id : ElevationRequestId) (response : ElevationResponse) :
    (d.respondElevation env id response).effects.filterMap Effect.credential
      = (d.asksFor (.respondElevation id response)).toList := by
  have hreport : ∀ resolved : ElevationOutcome,
      (d.reportElevation id resolved).filterMap Effect.credential = [] := fun resolved =>
    credential_of_about (reportElevation_about id resolved) (by simp)
  unfold respondElevation asksFor
  cases hpeek : d.elevation.peek id with
  | none =>
      cases response with
      | password password => simp only [hpeek, List.filterMap_nil, Option.toList_none]
      | cancelled => rfl
  | some info =>
      obtain ⟨p, hp, rfl⟩ := Option.map_eq_some_iff.1 hpeek
      cases response with
      | cancelled =>
          dsimp only
          split
          · rfl
          · exact hreport _
      | password password =>
          simp only [hpeek]
          cases hget : d.sessions.get p.sessionId with
          | error e => rfl
          | ok ctx =>
              dsimp only
              cases hattempt : d.elevation.attempt id (d.authenticator.authenticate env.pam)
                  ⟨p.sessionId, ctx.session.userName, password⟩
                  (elevationAuthPolicy d.settings.elevation) env.now with
              | none =>
                  obtain ⟨out, hout⟩ := attempt_of_pending d.elevation
                    (d.authenticator.authenticate env.pam)
                    ⟨p.sessionId, ctx.session.userName, password⟩
                    (elevationAuthPolicy d.settings.elevation) env.now hp
                  exact absurd hout (by simp [hattempt])
              | some attempt =>
                  dsimp only
                  rw [List.filterMap_append, authEffects_credential, hreport, List.append_nil,
                    (ElevationManager.attempt_calls hp hattempt).1]
                  rfl

theorem dispatch_credentials (connId : ConnId) (request : Request) :
    (d.dispatch env connId request).effects.filterMap Effect.credential
      = (d.asksFor request).toList := by
  cases request with
  | unlock s userName password => exact unlock_credentials s userName password
  | respondElevation id response => exact respondElevation_credentials id response
  | _ => exact credential_of_about (dispatch_about connId _) (by simp [Request.topics])

/-- **What reaches the authenticator** is the credential the event hands over, once. -/
theorem handle_credentials (d : Daemon) (env : Env) (event : DaemonEvent) :
    (d.handle env event).2.filterMap Effect.credential = (d.asks env event).toList := by
  match event with
  | .ipc (.connected connId peer outbox) => rfl
  | .ipc (.disconnected connId) =>
      exact credential_of_about (handle_topics d env (.ipc (.disconnected connId)))
        (by simp [DaemonEvent.topics])
  | .ipc (.command cmd) =>
      have hresponse : ∀ (registry : ConnRegistry) (response : Option Response),
          (response.map (registry.sendResponse cmd.connId)).toList.filterMap Effect.credential
            = [] := by
        intro registry response
        cases response <;> rfl
      simp only [handle, handleIpc, handleCommand, asks]
      cases authorize env.userByName cmd.peer cmd.connId cmd.request d.sessions d.elevation with
      | error e => rfl
      | ok _ =>
          dsimp only
          rw [List.filterMap_append, dispatch_credentials, hresponse, List.append_nil]
  | .idleTick =>
      exact credential_of_about (handle_topics d env .idleTick) (by simp [DaemonEvent.topics])
  | .signal .terminate => rfl
  | .signal .reloadConfig => rfl
  | .signal (.reapChildren children) =>
      exact credential_of_about (handle_topics d env (.signal (.reapChildren children)))
        (by simp [DaemonEvent.topics])

/-! ## Whole runs -/

theorem asksFor_redacted {request request' : Request}
    (hsame : request.redacted = request'.redacted) :
    (d.asksFor request).isSome = (d.asksFor request').isSome := by
  rcases Request.eq_of_redacted hsame with
    rfl | ⟨s, userName, password, password', rfl, rfl⟩ | ⟨id, password, password', rfl, rfl⟩
  · rfl
  · unfold asksFor
    dsimp only
    split
    · rfl
    · rfl
  · simp only [asksFor]
    cases d.elevation.peek id with
    | none => rfl
    | some info =>
        dsimp only
        cases d.sessions.get info.sessionId with
        | error e => rfl
        | ok ctx => rfl

/-- Whether an event asks the authenticator at all does not depend on the password. -/
theorem asks_redacted (hsame : event.redacted = event'.redacted) :
    (d.asks env event).isSome = (d.asks env event').isSome := by
  rcases DaemonEvent.eq_of_redacted hsame with
    rfl | ⟨connId, peer, request, request', hrequest, rfl, rfl⟩
  · rfl
  · have hauthorize : authorize env.userByName peer connId request' d.sessions d.elevation
        = authorize env.userByName peer connId request d.sessions d.elevation := by
      rw [← authorize_redacted, ← hrequest, authorize_redacted]
    simp only [asks, hauthorize]
    split
    · rfl
    · exact asksFor_redacted hrequest

/-- A transition, and another event with another PAM for it. -/
structure Swap where
  was : Transition Daemon DaemonLabel
  pam : PamStack
  event : DaemonEvent

/-- The other event differs in its password, and where the authenticator is asked, the other PAM
judges the other password as the first one judged the first. -/
def Swap.Alike (x : Swap) : Prop :=
  ∀ env event effects, x.was.label = .handled env event effects →
    event.redacted = x.event.redacted
      ∧ ∀ c ∈ x.was.pre.asks env event, ∀ c' ∈ x.was.pre.asks env x.event,
        (x.was.pre.authenticator.authenticate env.pam).accepts c
          = (x.was.pre.authenticator.authenticate x.pam).accepts c'

/-- The label when the other event is handled instead. -/
def Swap.label (x : Swap) : DaemonLabel :=
  match x.was.label with
  | .handled env _ _ =>
    .handled (env.withPam x.pam) x.event (x.was.pre.handle (env.withPam x.pam) x.event).2
  | .rehash => .rehash

/-- The credentials that the events of a run hand over, in order. -/
def handedOver (tr : List (Transition Daemon DaemonLabel)) : List AuthRequest :=
  tr.flatMap fun x =>
    match x.label with
    | .handled env event _ => (x.pre.asks env event).toList
    | .rehash => []

theorem Swap.Alike.verdict {x : Swap} (h : x.Alike) {effects : List Effect}
    (hlabel : x.was.label = .handled env event effects) :
    x.was.pre.verdict env event = x.was.pre.verdict (env.withPam x.pam) x.event := by
  obtain ⟨hsame, hjudged⟩ := h env event effects hlabel
  have hsome : (x.was.pre.asks env event).isSome = (x.was.pre.asks env x.event).isSome :=
    asks_redacted hsame
  have hsurroundings : x.was.pre.asks (env.withPam x.pam) x.event = x.was.pre.asks env x.event :=
    rfl
  unfold Daemon.verdict
  rw [hsurroundings]
  cases hasks : x.was.pre.asks env event with
  | none =>
      rw [hasks, Option.isSome_none, eq_comm, Option.isSome_eq_false_iff,
        Option.isNone_iff_eq_none] at hsome
      rw [hsome]
      rfl
  | some c =>
      rw [hasks, Option.isSome_some, eq_comm, Option.isSome_iff_exists] at hsome
      obtain ⟨c', hc'⟩ := hsome
      rw [hc', Option.map_some, Option.map_some, hjudged c hasks c' hc']
      rfl

/-- The other event takes the daemon where the first one did, with the same effects but for the
password. -/
theorem Swap.Alike.step {x : Swap} (h : x.Alike) (hstep : Step x.was.pre x.was.label x.was.post) :
    Step x.was.pre x.label x.was.post
      ∧ x.label.effects.map Effect.redacted = x.was.label.effects.map Effect.redacted
      ∧ x.was.label.effects.filterMap Effect.credential = handedOver [x.was] := by
  obtain ⟨⟨pre, label, post⟩, pam, event'⟩ := x
  change Step pre label post at hstep
  cases hstep with
  | rehash hrehash => exact ⟨Step.rehash hrehash, rfl, rfl⟩
  | handled env event =>
      obtain ⟨hdaemon, heffects⟩ := handle_redacted (h env event _ rfl).1 (h.verdict rfl)
      refine ⟨?_, heffects.symm, ?_⟩
      · have hother := Step.handled pre (env.withPam pam) event'
        rwa [← hdaemon] at hother
      · exact (handle_credentials pre env event).trans (List.append_nil _).symm

/-- **Passwords are confined.** Let the events of a run come with other passwords, and PAM judge
these as it judged the first ones where it is asked. Then the run is the same, state by state, and
so is everything the daemon does to the outside, the credentials it hands to PAM excepted; and
these are the ones that the events hand over, each once and in their order. -/
theorem passwords_confined {d₀ d : Daemon} {swaps : List Swap}
    (hrun : Run Step d₀ (swaps.map Swap.was) d) (halike : ∀ x ∈ swaps, x.Alike) :
    Run Step d₀ (swaps.map fun x => ⟨x.was.pre, x.label, x.was.post⟩) d
      ∧ (∀ x ∈ swaps, x.label.effects.map Effect.redacted
        = x.was.label.effects.map Effect.redacted)
      ∧ (swaps.map Swap.was).flatMap (fun x => x.label.effects.filterMap Effect.credential)
        = handedOver (swaps.map Swap.was) := by
  have hsteps : ∀ x ∈ swaps, Step x.was.pre x.was.label x.was.post := fun x hx =>
    (hrun.of_mem (List.mem_map_of_mem hx)).2
  refine ⟨hrun.relabel fun x hx hstep => ((halike x hx).step hstep).1,
    fun x hx => ((halike x hx).step (hsteps x hx)).2.1, ?_⟩
  rw [handedOver, List.flatMap_map, List.flatMap_map]
  refine List.flatMap_congr fun x hx => ?_
  have hone := ((halike x hx).step (hsteps x hx)).2.2
  rwa [handedOver, List.flatMap_singleton] at hone

/-- A wrong guess at the lock screen, and another wrong guess instead. -/
def demoSwap : Swap where
  was := ⟨demoLocked,
    .handled (demoEnv 6) (.ipc (.command (demoCommand 7 1000 (.unlock 1 "alice" "12345"))))
      (demoLocked.handle (demoEnv 6)
        (.ipc (.command (demoCommand 7 1000 (.unlock 1 "alice" "12345"))))).2,
    (demoLocked.handle (demoEnv 6)
      (.ipc (.command (demoCommand 7 1000 (.unlock 1 "alice" "12345"))))).1⟩
  pam := (demoEnv 6).pam
  event := .ipc (.command (demoCommand 7 1000 (.unlock 1 "alice" "letmein")))

theorem guess_confined :
    Run Step demoLocked ([demoSwap].map fun x => ⟨x.was.pre, x.label, x.was.post⟩)
        demoSwap.was.post
      ∧ (∀ x ∈ [demoSwap], x.label.effects.map Effect.redacted
        = x.was.label.effects.map Effect.redacted)
      ∧ ([demoSwap].map Swap.was).flatMap (fun x => x.label.effects.filterMap Effect.credential)
        = handedOver ([demoSwap].map Swap.was) := by
  have hrun : Run Step demoLocked ([demoSwap].map Swap.was) demoSwap.was.post :=
    Run.single (Step.handled demoLocked _ _)
  refine passwords_confined hrun fun x hx => ?_
  obtain rfl := List.mem_singleton.1 hx
  intro env event effects hlabel
  cases hlabel
  have hasks : ∀ password, demoLocked.asks (demoEnv 6)
      (.ipc (.command (demoCommand 7 1000 (.unlock 1 "alice" password))))
        = some ⟨1, "alice", password⟩ := fun _ => rfl
  refine ⟨rfl, fun c hc c' hc' => ?_⟩
  obtain rfl := Option.some.inj ((hasks _).symm.trans hc)
  obtain rfl := Option.some.inj ((hasks _).symm.trans hc')
  decide

end Daemon

end MitosSession
