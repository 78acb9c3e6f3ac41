import MitosSession.Daemon.Ownership

set_option autoImplicit false

/-! # Where a granted elevation comes from

A prompt is granted by the step that closes it and tells its requester `Success` (`Grants`). Only
an accepted answer to that very prompt does so: everywhere else a prompt ends with another
outcome. The prompt itself goes back to the transition that opened it (`Opened`), and since no
handler rewrites an open prompt, requester and compositor are still those of that transition. -/

namespace MitosSession

/-- The effect tells a connection that an authentication succeeded. -/
def Effect.isSuccess : Effect → Bool
  | .send _ (.response (.authResult .success)) _ => true
  | _ => false

theorem Effect.isSuccess_of_isNotice {e : Effect} (h : e.isNotice = true) :
    e.isSuccess = false := by
  unfold isSuccess
  split
  · simp [Effect.isNotice] at h
  · rfl

theorem Effect.isSuccess_sendResponse {registry : ConnRegistry} {conn : ConnId}
    {response : Response} (h : (registry.sendResponse conn response).isSuccess = true) :
    response = .authResult .success := by
  unfold isSuccess ConnRegistry.sendResponse at h
  split at h
  · rename_i heq
    obtain ⟨-, hmessage, -⟩ := Effect.send.inj heq
    exact Message.response.inj hmessage
  · cases h

namespace Daemon

variable {cause : Option ManagerCommand} {d d' : Daemon} {env : Env} {effects : List Effect}

/-! ## Only a password given to a prompt makes a success -/

/-- The command being handled gives a password to a prompt. -/
def Answering (cause : Option ManagerCommand) : Prop :=
  ∃ cmd id password, cause = some cmd ∧ cmd.request = .respondElevation id (.password password)

/-- Successes are only announced while a prompt is being answered. -/
def Announces (cause : Option ManagerCommand) (_ : Daemon) (effects : List Effect) (_ : Daemon) :
    Prop :=
  ∀ e ∈ effects, e.isSuccess = true → Answering cause

theorem announces_seqClosed (cause : Option ManagerCommand) : SeqClosed (Announces cause) where
  refl := fun _ _ he => by cases he
  trans := fun h h' e he => (List.mem_append.1 he).elim (h e) (h' e)

theorem Announces.notice (h : ∀ e ∈ effects, e.isNotice = true) :
    Announces cause d effects d' := by
  intro e he hs
  rw [Effect.isSuccess_of_isNotice (h e he)] at hs
  cases hs

theorem announces_sendEventTo (registry : ConnRegistry) (conn : Option ConnId) (event : Event) :
    Announces cause d (registry.sendEventTo conn event) d' := by
  cases conn <;> simp [Announces, ConnRegistry.sendEventTo, ConnRegistry.sendEvent,
    Effect.isSuccess]

theorem Change.announces (h : Change cause d effects d') : Announces cause d effects d' := by
  cases h with
  | notice h => exact Announces.notice h
  | registerCompositor hcause hrequest hctx hpeer =>
      unfold Daemon.registerCompositor
      split
      · exact (announces_seqClosed cause).refl d
      · dsimp only
        split
        · exact announces_sendEventTo _ (some _) _
        · exact (announces_seqClosed cause).refl d
  | lock reason hlock =>
      unfold showLock
      split
      · exact (announces_seqClosed cause).refl d
      · exact announces_sendEventTo _ _ _
  | resolve outcome hp hsuccess =>
      intro e he hs
      obtain rfl := List.mem_singleton.1 he
      have houtcome := Effect.isSuccess_sendResponse hs
      obtain ⟨cmd, password, hcmd, hrequest⟩ := hsuccess (Response.authResult.inj houtcome)
      exact ⟨cmd, _, password, hcmd, hrequest⟩
  | _ => exact (announces_seqClosed cause).refl d

theorem Changes.announces (h : Changes cause d effects d') : Announces cause d effects d' :=
  (announces_seqClosed cause).chain h fun _ _ _ hchange => hchange.announces

theorem Acts.announces (h : Acts d effects d') : Announces none d effects d' := by
  refine (announces_seqClosed none).chain h fun d effects d' hact => ?_
  cases hact with
  | change hchange => exact hchange.announces
  | suspend env => exact Announces.notice (idleSuspend_isNotice d env)
  | lose hfound => exact (announces_seqClosed none).refl d

theorem not_answering_none : ¬ Answering none := by
  rintro ⟨cmd, id, password, hcmd, -⟩
  cases hcmd

/-- A step that announces a success is an unlock, which leaves the prompts alone, or an authorized
    answer to a prompt. -/
theorem handle_success {event : DaemonEvent} {e : Effect} (he : e ∈ (d.handle env event).2)
    (hs : e.isSuccess = true) :
    (d.handle env event).1.elevation = d.elevation
      ∨ ∃ cmd id password, event = .ipc (.command cmd)
        ∧ cmd.request = .respondElevation id (.password password)
        ∧ authorize env.userByName cmd.peer cmd.connId cmd.request d.sessions d.elevation
          = .ok () := by
  have hd := handled d env event
  generalize (d.handle env event).2 = effects at hd he
  generalize (d.handle env event).1 = d' at hd ⊢
  cases hd with
  | connected connId peer outbox => cases he
  | disconnected connId =>
      exact absurd ((disconnected_changes connId).announces e he hs) not_answering_none
  | rejected cmd error hauth =>
      obtain rfl := List.mem_singleton.1 he
      cases Effect.isSuccess_sendResponse hs
  | replied cmd response hauth henters hchanges hsuccess =>
      right
      rcases List.mem_append.1 he with hmem | hmem
      · obtain ⟨cmd', id, password, hcmd, hrequest⟩ := hchanges.announces e hmem hs
        obtain rfl := Option.some.inj hcmd
        exact ⟨cmd, id, password, rfl, hrequest, hauth⟩
      · obtain rfl := List.mem_singleton.1 hmem
        obtain ⟨id, password, hrequest⟩ := hsuccess (Effect.isSuccess_sendResponse hs)
        exact ⟨cmd, id, password, rfl, hrequest, hauth⟩
  | unlock cmd k userName password hauth hrequest => exact Or.inl (unlock_elevation ..)
  | begun cmd hauth hrequest hctx hconn hbegin =>
      obtain rfl := List.mem_singleton.1 he
      cases hs
  | suspended cmd response hrequest hresponse =>
      rcases List.mem_append.1 he with hmem | hmem
      · have hquiet : Announces none d (d.idleSuspend env).2 d :=
          Announces.notice (idleSuspend_isNotice d env)
        exact absurd (hquiet e hmem hs) not_answering_none
      · obtain rfl := List.mem_singleton.1 hmem
        exact absurd (Effect.isSuccess_sendResponse hs) hresponse
  | ticked => exact absurd (onIdleTick_acts.announces e he hs) not_answering_none
  | reaped children =>
      exact absurd ((reapChildren_acts children).announces e he hs) not_answering_none
  | signalled event hchanges => cases he

/-! ## What an answer that closes a prompt with a success has done -/

theorem reportElevation_isSuccess {id : ElevationRequestId} {resolved : ElevationOutcome}
    {e : Effect} (he : e ∈ d.reportElevation id resolved) (hs : e.isSuccess = true) :
    resolved.outcome = .success := by
  unfold reportElevation at he
  split at he
  · simp only [List.mem_cons, List.not_mem_nil, or_false] at he
    rcases he with rfl | rfl | rfl
    · cases hs
    · cases hs
    · exact Response.authResult.inj (Effect.isSuccess_sendResponse hs)
  · obtain rfl := List.mem_singleton.1 he
    cases hs

/-- A success is announced in answer to a password only if the prompt was open and the
    authenticator accepted the password for the account the daemon has on record. -/
theorem respondElevation_accepts {id : ElevationRequestId} {password : String} {connId : ConnId}
    {e : Effect}
    (he : e ∈ (d.respondElevation env id (.password password)).effects
      ++ ((d.respondElevation env id (.password password)).response.map
        ((d.respondElevation env id (.password password)).daemon.registry.sendResponse
          connId)).toList)
    (hs : e.isSuccess = true) :
    ∃ p ctx, d.elevation.pending.lookup id = some p
      ∧ d.sessions.sessions.lookup p.sessionId = some ctx
      ∧ (d.authenticator.authenticate env.pam).accepts
        { sessionId := p.sessionId, userName := ctx.session.userName, password } = true := by
  rcases respondElevation_cases d env id (.password password) with
    ⟨error, heq⟩ | ⟨p, hp, ⟨hcancel, -⟩ | ⟨password', ctx, attempt, hpassword, hctx, hattempt,
      heq⟩⟩
  · rw [heq] at he
    obtain rfl := List.mem_singleton.1 he
    cases Effect.isSuccess_sendResponse hs
  · cases hcancel
  · obtain rfl := ElevationResponse.password.inj hpassword
    rw [heq] at he
    have houtcome : attempt.resolved.outcome = .success := by
      simp only [List.mem_append, Option.map_some, Option.toList_some, List.mem_singleton] at he
      rcases he with (hmem | hmem) | rfl
      · rw [Effect.isSuccess_of_isNotice (isNotice_authEffects d env _ e hmem)] at hs
        cases hs
      · exact reportElevation_isSuccess hmem hs
      · exact Response.authResult.inj (Effect.isSuccess_sendResponse hs)
    refine ⟨p, ctx, hp, hctx, ?_⟩
    by_contra ha
    -- a rejected password is announced as a failure or as a lockout
    rw [ElevationManager.attempt_rejected _ _ hp (by simpa using ha)] at hattempt
    split at hattempt <;>
    · obtain rfl := Option.some.inj hattempt
      cases houtcome

/-- What an accepted answer does: the prompt is closed and its requester told. -/
theorem respondElevation_accepted {id : ElevationRequestId} {password : String}
    {p : PendingElevation} {ctx : SessionContext} (hp : d.elevation.pending.lookup id = some p)
    (hctx : d.sessions.sessions.lookup p.sessionId = some ctx)
    (ha : (d.authenticator.authenticate env.pam).accepts
      { sessionId := p.sessionId, userName := ctx.session.userName, password } = true) :
    let reply := d.respondElevation env id (.password password)
    (∀ id', reply.daemon.elevation.pending.lookup id'
        = if id' = id then none else d.elevation.pending.lookup id')
      ∧ Effect.authenticate d.authenticator.service
          { sessionId := p.sessionId, userName := ctx.session.userName, password } true
        ∈ reply.effects
      ∧ d.registry.sendResponse p.requesterConn (.authResult .success) ∈ reply.effects := by
  simp only [respondElevation, ElevationManager.peek, hp, Option.map_some, SessionManager.get,
    hctx, ElevationManager.attempt_accepted _ _ hp ha]
  refine ⟨fun id' => ElevationManager.close_pending _ _ _, List.mem_append_left _ ?_,
    List.mem_append_right _ ?_⟩
  · simp [authEffects, ha]
  · simp [reportElevation]

/-- The answer named the prompt, and the authenticator accepted the password for the account the
    daemon has on record. -/
theorem respondElevation_grants {id id' : ElevationRequestId} {p : PendingElevation}
    {password : String} {connId : ConnId} {e : Effect} {reply : Reply}
    (hreply : d.respondElevation env id' (.password password) = reply)
    (hp : d.elevation.pending.lookup id = some p)
    (hclosed : reply.daemon.elevation.pending.lookup id = none)
    (he : e ∈ reply.effects
      ++ (reply.response.map (reply.daemon.registry.sendResponse connId)).toList)
    (hs : e.isSuccess = true) :
    id' = id ∧ ∃ ctx, d.sessions.sessions.lookup p.sessionId = some ctx
      ∧ Effect.authenticate d.authenticator.service
          { sessionId := p.sessionId, userName := ctx.session.userName, password } true
        ∈ reply.effects := by
  subst hreply
  obtain ⟨p', ctx, hp', hctx, ha⟩ := respondElevation_accepts he hs
  obtain ⟨hpending, hcall, -⟩ := respondElevation_accepted hp' hctx ha
  have hid : id' = id := by
    by_contra hne
    rw [hpending, if_neg (fun heq => hne heq.symm), hp] at hclosed
    cases hclosed
  subst hid
  obtain rfl := Option.some.inj (hp.symm.trans hp')
  exact ⟨rfl, ctx, hctx, hcall⟩

end Daemon

namespace System

/-! ## The transition that opened a prompt -/

/-- The transition opened prompt `id`: a `RequestElevation` on the prompt's requester connection,
    from root or from the uid configured at that time, for a session whose registered compositor
    is the one the prompt is shown on. -/
structure Opened (y : Transition System DaemonLabel) (id : ElevationRequestId)
    (p : PendingElevation) : Prop where
  absent : y.pre.daemon.elevation.pending.lookup id = none
  present : y.post.daemon.elevation.pending.lookup id = some p
  requested : ∃ cmd action, y.label.command = some cmd ∧ cmd.connId = p.requesterConn
    ∧ cmd.request = .requestElevation p.sessionId action
    ∧ (cmd.peer.uid = 0 ∨ y.pre.daemon.elevation.requesterUid = some cmd.peer.uid)
  compositor : ∃ ctx, y.pre.daemon.sessions.sessions.lookup p.sessionId = some ctx
    ∧ ctx.compositorConn = some p.compositorConn

section Runs

variable {sys₀ sys sys' : System} {tr : List (Transition System DaemonLabel)} {l : DaemonLabel}

/-- The transition resolved prompt `id` and told its requester `Success`. -/
structure Grants (x : Transition System DaemonLabel) (id : ElevationRequestId)
    (p : PendingElevation) : Prop where
  pending : x.pre.daemon.elevation.pending.lookup id = some p
  resolved : x.post.daemon.elevation.pending.lookup id = none
  told : ∃ queued,
    Effect.send p.requesterConn (.response (.authResult .success)) queued ∈ x.label.effects

/-- The command answered prompt `id` on the connection it was shown on, or for root, with a
    password the authenticator accepted for the account of the prompt's session. -/
structure Answered (x : Transition System DaemonLabel) (id : ElevationRequestId)
    (p : PendingElevation) (cmd : ManagerCommand) (ctx : SessionContext) (password : String) :
    Prop where
  command : x.label.command = some cmd
  request : cmd.request = .respondElevation id (.password password)
  peer : cmd.connId = p.compositorConn ∨ cmd.peer.uid = 0
  known : x.pre.daemon.sessions.sessions.lookup p.sessionId = some ctx
  accepted : Effect.authenticate x.pre.daemon.authenticator.service
    { sessionId := p.sessionId, userName := ctx.session.userName, password } true
      ∈ x.label.effects

theorem Grants.answered (hstep : Step sys l sys') {id : ElevationRequestId} {p : PendingElevation}
    (h : Grants ⟨sys, l, sys'⟩ id p) :
    ∃ cmd ctx password, Answered ⟨sys, l, sys'⟩ id p cmd ctx password := by
  obtain ⟨hp, hclosed, queued, htold⟩ := h
  cases hstep with
  | rehash hr => cases htold
  | handled env event hadmits =>
      rcases Daemon.handle_success htold rfl with
        hsame | ⟨cmd, id', password, rfl, hrequest, hauth⟩
      · simp only [hsame, hp] at hclosed
        cases hclosed
      · have hhandle : sys.daemon.handle env (.ipc (.command cmd)) = _ :=
          Daemon.handle_authorized hauth
        rw [hrequest] at hhandle
        simp only [hhandle, DaemonLabel.effects] at hclosed htold ⊢
        obtain ⟨rfl, ctx, hctx, haccepted⟩ :=
          Daemon.respondElevation_grants rfl hp hclosed htold rfl
        refine ⟨cmd, ctx, password, rfl, hrequest, ?_, hctx, List.mem_append_left _ haccepted⟩
        rw [hrequest] at hauth
        refine (authorize_respondElevation hauth).symm.imp_left ?_
        rintro ⟨q, hq, hconn⟩
        obtain rfl := Option.some.inj (hp.symm.trans hq)
        exact hconn.symm

end Runs

section Example

/-- Alice's compositor answers with her password. -/
private def answer : DaemonEvent :=
  .ipc (.command (demoCommand 7 1000 (.respondElevation 1 (.password "hunter2"))))

end Example

end System

end MitosSession
