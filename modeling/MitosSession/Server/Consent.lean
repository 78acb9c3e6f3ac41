import MitosSession.Daemon.Provenance
import MitosSession.Server.Exchange

set_option autoImplicit false

/-! # What a granted call means

The purpose of elevation, from end to end: a program asks over its connection whether the user of a
session agrees, and gets `Success` back from its `call`. `Server.success_consented` says what has
happened then: while the call was waiting, a password was typed at the prompt this very call had
opened, on the compositor of the session, and the authenticator accepted it for the account of the
session.

What the daemon grants and to whom is in `Daemon.Provenance`; the point here is that nothing that
happens to the connection on the way makes another call take the answer. -/

namespace MitosSession

namespace Daemon

variable {d : Daemon} {env : Env} {event : DaemonEvent} {c : ConnId}

/-- A success that goes to a connection which did not send the command itself goes to the requester
    of the prompt a password was accepted for. -/
theorem handle_success_elsewhere (hreach : Reachable d)
    (hcommand : (DaemonLabel.handled env event (d.handle env event).2).isCommandFrom c = false)
    (hsuccess : Effect.send c (.response (.authResult .success)) true ∈ (d.handle env event).2) :
    ∃ cmd id password p ctx, event = .ipc (.command cmd)
      ∧ cmd.request = .respondElevation id (.password password)
      ∧ d.elevation.pending.lookup id = some p ∧ p.requesterConn = c
      ∧ (cmd.connId = p.compositorConn ∨ cmd.peer.uid = 0)
      ∧ d.sessions.sessions.lookup p.sessionId = some ctx
      ∧ Effect.authenticate d.authenticator.service
          { sessionId := p.sessionId, userName := ctx.session.userName, password } true
        ∈ (d.handle env event).2 := by
  rcases handle_success hsuccess rfl with hsame | ⟨cmd, id, password, rfl, hrequest, hauth⟩
  · -- a response to someone else's command closes a prompt
    exfalso
    have hannounced : ∀ peer outbox, event ≠ .ipc (.connected c peer outbox) := by
      rintro peer outbox rfl
      cases hsuccess
    have hserved : Served c _ d (d.handle env event).2 _ := handle_served hreach event hannounced
    rw [hcommand] at hserved
    have hknown := handle_reaches_after d env event c _ hsuccess
    have hbalance := hserved.known hknown
    simp only [awaitedBy, hsame] at hbalance
    have hsome : 0 < responsesTo c (d.handle env event).2 :=
      List.countP_pos_iff.2 ⟨_, hsuccess, by simp [Effect.respondsTo]⟩
    simp only [Bool.false_eq_true, if_false] at hbalance
    omega
  · have hne : cmd.connId ≠ c := by
      simpa [DaemonLabel.isCommandFrom, DaemonLabel.command] using hcommand
    have hhandle : d.handle env (.ipc (.command cmd)) = _ := handle_authorized hauth
    rw [hrequest] at hhandle
    simp only [hhandle] at hsuccess ⊢
    obtain ⟨p, ctx, hp, hctx, haccepts⟩ := respondElevation_accepts hsuccess rfl
    obtain ⟨-, hcall, -⟩ := respondElevation_accepted hp hctx haccepts
    refine ⟨cmd, id, password, p, ctx, rfl, hrequest, hp, ?_, ?_, hctx,
      List.mem_append_left _ hcall⟩
    · simp only [dispatch, respondElevation, ElevationManager.peek, hp, Option.map_some,
        SessionManager.get, hctx, ElevationManager.attempt_accepted _ _ hp haccepts,
        reportElevation, authEffects, ConnRegistry.sendEvent, ConnRegistry.sendResponse]
        at hsuccess
      -- the answer goes to the requester and back to whoever gave it
      have hto : c = p.requesterConn ∧ d.registry.knows p.requesterConn = true
          ∨ c = cmd.connId ∧ d.registry.knows cmd.connId = true := by simpa using hsuccess
      rcases hto with ⟨hc, -⟩ | ⟨hc, -⟩
      · exact hc.symm
      · exact absurd hc.symm hne
    · rw [hrequest] at hauth
      refine (authorize_respondElevation hauth).symm.imp_left ?_
      rintro ⟨q, hq, hconn⟩
      obtain rfl := Option.some.inj (hp.symm.trans hq)
      exact hconn.symm

/-- Only two requests can be followed by a success at once. -/
theorem request_of_success {cmd : ManagerCommand} {e : Effect}
    (he : e ∈ (d.handle env (.ipc (.command cmd))).2) (hs : e.isSuccess = true) :
    (∃ s userName password, cmd.request = .unlock s userName password)
      ∨ ∃ id password, cmd.request = .respondElevation id (.password password) := by
  have hd := handled d env (.ipc (.command cmd))
  generalize (d.handle env (.ipc (.command cmd))).2 = effects at hd he
  generalize (d.handle env (.ipc (.command cmd))).1 = d' at hd
  cases hd with
  | rejected cmd error hauth =>
      obtain rfl := List.mem_singleton.1 he
      cases Effect.isSuccess_sendResponse hs
  | replied cmd response hauth henters hchanges hsuccess =>
      right
      rcases List.mem_append.1 he with hmem | hmem
      · obtain ⟨cmd', id, password, hcmd, hrequest⟩ := hchanges.announces e hmem hs
        obtain rfl := Option.some.inj hcmd
        exact ⟨id, password, hrequest⟩
      · obtain rfl := List.mem_singleton.1 hmem
        exact hsuccess (Effect.isSuccess_sendResponse hs)
  | unlock cmd k userName password hauth hrequest =>
      exact Or.inl ⟨k, userName, password, hrequest⟩
  | begun cmd hauth hrequest hctx hconn hbegin =>
      obtain rfl := List.mem_singleton.1 he
      cases hs
  | suspended cmd response hrequest hresponse =>
      rcases List.mem_append.1 he with hmem | hmem
      · rw [Effect.isSuccess_of_isNotice (idleSuspend_isNotice d env e hmem)] at hs
        cases hs
      · obtain rfl := List.mem_singleton.1 hmem
        exact absurd (Effect.isSuccess_sendResponse hs) hresponse

end Daemon

namespace System

variable {sys₀ sys sys' : System} {tr tr' : List (Transition System DaemonLabel)}
  {l : DaemonLabel} {c : ConnId}

/-- A connection the registry has dropped does not come back. -/
theorem unknown_stays (hinit : Initial sys₀) (hbefore : Run Step sys₀ tr sys)
    (hrun : Run Step sys tr' sys') (hfresh : sys.conns c ≠ .fresh)
    (hunknown : sys.daemon.registry.knows c = false) :
    sys'.conns c ≠ .fresh ∧ sys'.daemon.registry.knows c = false := by
  refine hrun.history
    (P := fun _ sys' => sys'.conns c ≠ .fresh ∧ sys'.daemon.registry.knows c = false)
    ⟨hfresh, hunknown⟩ ?_
  rintro tr' sys l sys' hrun ⟨hfresh, hunknown⟩ hstep
  cases hstep with
  | rehash hr => exact ⟨hfresh, (hr.registry.knows_eq c).trans hunknown⟩
  | handled env event hadmits =>
      have hreach := reachable_daemon hinit (hbefore.append hrun)
      have hannounced : ∀ peer outbox, event ≠ .ipc (.connected c peer outbox) := by
        rintro peer outbox rfl
        exact hfresh hadmits
      have hserved : Daemon.Served c _ sys.daemon (sys.daemon.handle env event).2 _ :=
        Daemon.handle_served hreach event hannounced
      exact ⟨fun hfresh' => hfresh (fresh_of_track hadmits hfresh').1,
        (hserved.unknown hunknown).1⟩

/-- While a connection sends nothing, no prompt is opened for it. -/
theorem prompts_of_quiet (hrun : Run Step sys tr sys')
    (hquiet : ∀ w ∈ tr, w.label.isCommandFrom c = false) :
    ∀ id p, sys'.daemon.elevation.pending.lookup id = some p → p.requesterConn = c →
      sys.daemon.elevation.pending.lookup id = some p := by
  refine hrun.history (P := fun tr sys' => (∀ w ∈ tr, w.label.isCommandFrom c = false) →
    ∀ id p, sys'.daemon.elevation.pending.lookup id = some p → p.requesterConn = c →
      sys.daemon.elevation.pending.lookup id = some p) (fun _ _ _ hp _ => hp) ?_ hquiet
  intro tr' s l s' _ ih hstep hquiet id p hp hc
  refine ih (fun w hw => hquiet w (List.mem_append_left _ hw)) id p ?_ hc
  have hlast := hquiet _ (List.mem_append_right _ (List.mem_singleton_self _))
  cases hstep with
  | rehash hr => rwa [hr.elevation.pending.lookup_eq] at hp
  | handled env event hadmits =>
      rcases Daemon.handle_prompts s.daemon env event with
        hnarrows | ⟨cmd, id', k, ctx, conn, rfl, hopens⟩
      · exact hnarrows.2 id p hp
      · rw [hopens.pending, Table.lookup_insert_eq] at hp
        split at hp
        · -- the prompt just opened is someone else's
          obtain rfl := Option.some.inj hp
          have hne : cmd.connId ≠ c := by
            simpa [DaemonLabel.isCommandFrom, DaemonLabel.command] using hlast
          exact absurd hc hne
        · exact hp

/-- Whoever is told something has been known all along. -/
theorem known_of_told {message : Message} {sys'' : System} (hinit : Initial sys₀)
    (hbefore : Run Step sys₀ tr sys) (hrun : Run Step sys tr' sys') (hfresh : sys.conns c ≠ .fresh)
    (hstep : Step sys' l sys'') (htold : Effect.send c message true ∈ l.effects) :
    sys.daemon.registry.knows c = true := by
  by_contra hno
  obtain ⟨-, hunknown⟩ := unknown_stays hinit hbefore hrun hfresh (by simpa using hno)
  cases hstep with
  | rehash hr => cases htold
  | handled env event hadmits =>
      have hknown := Daemon.handle_reaches sys'.daemon env event c message htold
      rw [hunknown] at hknown
      cases hknown

/-- A prompt that is open after a step and was not before was opened by it. -/
theorem Step.opened (hreach : Daemon.Reachable sys.daemon) (hstep : Step sys l sys')
    {id : ElevationRequestId} {p : PendingElevation}
    (hp : sys'.daemon.elevation.pending.lookup id = some p)
    (hno : sys.daemon.elevation.pending.lookup id ≠ some p) : Opened ⟨sys, l, sys'⟩ id p := by
  cases hstep with
  | rehash hr =>
      rw [hr.elevation.pending.lookup_eq] at hp
      exact absurd hp hno
  | handled env event hadmits =>
      rcases Daemon.handle_prompts sys.daemon env event with
        hnarrows | ⟨cmd, id', s, ctx, conn, rfl, hopens⟩
      · exact absurd (hnarrows.2 id p hp) hno
      · have hlookup := hp
        rw [hopens.pending, Table.lookup_insert_eq] at hlookup
        split at hlookup
        · rename_i hid
          obtain rfl := Option.some.inj hlookup
          obtain ⟨action, hrequest⟩ := hopens.request
          have hauth := hopens.authorized
          rw [hrequest] at hauth
          have hnew := hreach.nextId_notMem
          rw [← hopens.fresh, ← hid] at hnew
          exact ⟨AList.lookup_eq_none.2 hnew, hp,
            ⟨cmd, action, rfl, rfl, hrequest, authorize_requestElevation hauth⟩,
            ⟨ctx, hopens.known, hopens.conn⟩⟩
        · exact absurd hlookup hno

/-- A connection asks for an elevation when all it asked before is answered, and is told `Success`
    before it asks for anything else: then its request opened a prompt, and the step that told it
    was an accepted answer to this prompt. -/
theorem success_answers {y : Transition System DaemonLabel} {cmd : ManagerCommand} {s : SessionId}
    {action : ElevationAction} (hinit : Initial sys₀) (hrun : Run Step sys₀ (tr ++ y :: tr') sys)
    (hstep : Step sys l sys') (hcmd : y.label.command = some cmd) (hc : cmd.connId = c)
    (hrequest : cmd.request = .requestElevation s action)
    (hmatched : repliesTo c tr = commandsFrom c tr)
    (hquiet : ∀ w ∈ tr', w.label.isCommandFrom c = false) (hlast : l.isCommandFrom c = false)
    (hsuccess : Effect.send c (.response (.authResult .success)) true ∈ l.effects) :
    ∃ id p cmd' ctx password, p.sessionId = s ∧ p.requesterConn = c ∧ Opened y id p
      ∧ Answered ⟨sys, l, sys'⟩ id p cmd' ctx password := by
  obtain ⟨hbefore, hy⟩ := hrun.split rfl
  have hafter := hrun.after rfl
  obtain ⟨pre, ly, post⟩ := y
  have hy : Step pre ly post := hy
  -- when it asked, no prompt of it was open
  have hnone : pre.daemon.awaitedBy c = 0 := by
    have hfresh : pre.conns c ≠ .fresh := by
      cases hy with
      | rehash hr => cases hcmd
      | handled env event hadmits =>
          obtain rfl := DaemonLabel.event_of_command hcmd
          have hopen : pre.conns cmd.connId = .open cmd.peer := hadmits
          rw [← hc, hopen]
          exact ConnStatus.noConfusion
    have hknown : pre.daemon.registry.knows c = true :=
      known_of_told hinit hbefore ((Run.single hy).append hafter) hfresh hstep hsuccess
    have hbalance : commandsFrom c tr = repliesTo c tr + pre.daemon.awaitedBy c :=
      (inBalance hinit hbefore c).known hknown
    omega
  -- the prompt that was answered was open when the success was told, so its request opened it
  have hreach := reachable_daemon hinit hrun
  cases hstep with
  | rehash hr => cases hsuccess
  | handled env event hadmits =>
      obtain ⟨cmd', id, password, p, ctx, rfl, hrequest', hp, hrequester, hpeer, hctx, hcall⟩ :=
        Daemon.handle_success_elsewhere hreach hlast hsuccess
      have hbefore' : pre.daemon.elevation.pending.lookup id ≠ some p := by
        intro hpending
        have hpos := Table.countVal_erase (fun q : PendingElevation => q.requesterConn = c) hpending
        simp only [hrequester, decide_true, if_true] at hpos
        rw [Daemon.awaitedBy, hpos] at hnone
        exact Nat.succ_ne_zero _ hnone
      have hopened : Opened ⟨pre, ly, post⟩ id p :=
        hy.opened (reachable_daemon hinit hbefore)
          (prompts_of_quiet hafter hquiet id p hp hrequester) hbefore'
      obtain ⟨cmd₁, action₁, hcmd₁, -, hrequest₁, -⟩ := hopened.requested
      obtain rfl := Option.some.inj (hcmd.symm.trans hcmd₁)
      obtain ⟨rfl, -⟩ := Request.requestElevation.inj (hrequest.symm.trans hrequest₁)
      exact ⟨id, p, cmd', ctx, password, rfl, hrequester, hopened,
        ⟨rfl, hrequest', hpeer, hctx, hcall⟩⟩

end System

/-! ## Calls -/

namespace Server

variable {codec : Codec Request} {srv₀ srv : Server}
  {tr : List (Transition Server ServerLabel)} {c : ConnId}

/-- The user of session `s` consented to the request `peer` made as number `k` of connection `c`:
    the daemon took the request, which opened a prompt for `s` on the session's compositor, and
    before it took another request of the connection it took a password for this prompt, which the
    authenticator accepted for the account of `s`. -/
def Consented (c : ConnId) (peer : PeerCred) (tr : List (Transition Server ServerLabel)) (k : ℕ)
    (s : SessionId) (action : ElevationAction) : Prop :=
  ∃ tr₁ x tr₂ z tr₃, tr = tr₁ ++ x :: (tr₂ ++ z :: tr₃) ∧ handled c tr₁ = k
    ∧ takenBy x.label
      = some (.command { connId := c, peer, request := .requestElevation s action })
    ∧ (∀ w ∈ tr₂ ++ [z], takesFrom c w.label = false)
    ∧ ∃ y y' id p cmd ctx password,
      daemonStep x = some (System.toDaemon y) ∧ daemonStep z = some (System.toDaemon y')
        ∧ p.sessionId = s ∧ p.requesterConn = c ∧ System.Opened y id p
        ∧ System.Answered y' id p cmd ctx password

/-- A reply is sent in one of the steps. -/
theorem exists_send_of_mem_replies {response : Response} (h : response ∈ replies c tr) :
    ∃ z ∈ tr, ∃ label, z.label = .daemon label
      ∧ Effect.send c (.response response) true ∈ label.effects := by
  rw [replies_eq] at h
  obtain ⟨z, hz, hmem⟩ := List.mem_flatMap.1 h
  obtain ⟨message, hqueued, hmessage⟩ := List.mem_filterMap.1 hmem
  obtain ⟨pre, l, post⟩ := z
  cases l with
  | daemon label =>
      cases message with
      | response r =>
          obtain rfl := Option.some.inj hmessage
          exact ⟨_, hz, label, rfl, mem_queuedFor.1 hqueued⟩
      | event e => cases hmessage
  | _ => cases hqueued

/-- A step of the server that is one of the daemon takes a request exactly if the daemon handles
    it. -/
theorem takesFrom_daemon (c : ConnId) (label : DaemonLabel) :
    takesFrom c (.daemon label) = label.isCommandFrom c := by
  cases label with
  | rehash => rfl
  | handled env event effects =>
      match event with
      | .ipc (.command cmd) => rfl
      | .ipc (.connected connId peer outbox) => rfl
      | .ipc (.disconnected connId) => rfl
      | .idleTick => rfl
      | .signal event => rfl

theorem command_of_takenBy {label : DaemonLabel} {cmd : ManagerCommand}
    (h : takenBy (.daemon label) = some (.command cmd)) : label.command = some cmd := by
  cases label with
  | rehash => cases h
  | handled env event effects =>
      match event with
      | .ipc message =>
          obtain rfl := Option.some.inj h
          rfl
      | .idleTick => cases h
      | .signal event => cases h

/-- A request for an elevation is not granted at once. -/
theorem Step.not_success {l : ServerLabel} {srv' : Server} {cmd : ManagerCommand} {s : SessionId}
    {action : ElevationAction} (hstep : Step codec srv l srv')
    (htaken : takenBy l = some (.command cmd)) (hrequest : cmd.request = .requestElevation s action)
    {label : DaemonLabel} (hl : l = .daemon label) :
    Effect.send c (.response (.authResult .success)) true ∉ label.effects := by
  intro hsend
  cases hstep with
  | take env hqueue =>
      obtain rfl := ServerLabel.daemon.inj hl
      obtain rfl := Option.some.inj htaken
      rcases Daemon.request_of_success hsend rfl with ⟨k, userName, password, h⟩ | ⟨id, password, h⟩
      · rw [hrequest] at h
        cases h
      · rw [hrequest] at h
        cases h
  | idleTick env => cases htaken
  | signal env event => cases htaken
  | rehash hr => cases htaken
  | _ => cases hl

/-- Two steps of the daemon along a run of the server, as steps of the system. -/
theorem exists_system_steps {tr₁ tr₂ tr₃ : List (Transition Server ServerLabel)}
    {x z : Transition Server ServerLabel} {dx dz : Transition Daemon DaemonLabel}
    (hinit : Initial srv₀) (hrun : Run (Step codec) srv₀ (tr₁ ++ x :: (tr₂ ++ z :: tr₃)) srv)
    (hids : (spent (tr₁ ++ x :: (tr₂ ++ z :: tr₃))).length ≤ u64Size)
    (hx : daemonStep x = some dx) (hz : daemonStep z = some dz) :
    ∃ sys₀ t₁ y t₂ y', System.Initial sys₀ ∧ Run System.Step sys₀ (t₁ ++ y :: t₂) y'.pre
      ∧ System.Step y'.pre y'.label y'.post ∧ System.toDaemon y = dx ∧ System.toDaemon y' = dz
      ∧ t₁.map System.toDaemon = tr₁.filterMap daemonStep
      ∧ t₂.map System.toDaemon = tr₂.filterMap daemonStep := by
  obtain ⟨trace, conns, hfollows⟩ := exists_follows hinit hrun hids
  obtain ⟨d, hd, rfl⟩ := hinit
  have hsteps := hfollows.steps
  rw [List.filterMap_append, List.filterMap_cons_some hx, List.filterMap_append,
    List.filterMap_cons_some hz] at hsteps
  obtain ⟨t₁, rest, rfl, ht₁, hrest⟩ := List.map_eq_append_iff.1 hsteps
  obtain ⟨y, rest, rfl, hy, hrest⟩ := List.map_eq_cons_iff.1 hrest
  obtain ⟨t₂, rest, rfl, ht₂, hrest⟩ := List.map_eq_append_iff.1 hrest
  obtain ⟨y', rest, rfl, hy', -⟩ := List.map_eq_cons_iff.1 hrest
  have hrun' := hfollows.run
  rw [← List.cons_append, ← List.append_assoc] at hrun'
  obtain ⟨hbefore, hstep⟩ := hrun'.split rfl
  exact ⟨_, t₁, y, t₂, y', ⟨hd, rfl⟩, hbefore, hstep, hy, hy', ht₁, ht₂⟩

/-- A success in reply to a request for an elevation has been consented to. -/
theorem Answers.consented {peer : PeerCred} {k : ℕ} {s : SessionId} {action : ElevationAction}
    (hinit : Initial srv₀) (hrun : Run (Step codec) srv₀ tr srv)
    (hids : (spent tr).length ≤ u64Size) (hseq : Sequential c tr)
    (h : Answers c peer tr k (.requestElevation s action) (.authResult .success)) :
    Consented c peer tr k s action := by
  obtain ⟨tr₁, x, tr₂, tr₃, rfl, hcount, htaken, hsilent, hone⟩ := h
  obtain ⟨z, hz, label, hlabel, hsend⟩ :=
    exists_send_of_mem_replies (hone ▸ List.mem_singleton_self _)
  rcases List.mem_cons.1 hz with rfl | hz
  · exact absurd hsend ((hrun.split rfl).2.not_success htaken rfl hlabel)
  · obtain ⟨u, v, rfl⟩ := List.append_of_mem hz
    rw [List.append_assoc, List.cons_append] at hrun hids hseq ⊢
    obtain ⟨pre, lx, post⟩ := x
    obtain ⟨pre', lz, post'⟩ := z
    obtain rfl : lz = .daemon label := hlabel
    have hmatched : answered c tr₁ = handled c tr₁ := by
      refine answered_of_takesFrom hinit hrun hids hseq rfl ?_
      simp [takesFrom, htaken, ManagerMessage.isCommandFrom]
    cases lx with
    | daemon label' =>
        obtain ⟨sys₀, t₁, y, t₂, y', hinit', hbefore, hstep, hy, hy', ht₁, ht₂⟩ :=
          exists_system_steps hinit hrun hids rfl rfl
        have hlabel : y.label = label' := congrArg Transition.label hy
        have hlabel' : y'.label = label := congrArg Transition.label hy'
        have hquiet : ∀ w ∈ t₂, w.label.isCommandFrom c = false := by
          intro w hw
          have hmem : System.toDaemon w ∈ u.filterMap daemonStep := ht₂ ▸ List.mem_map_of_mem hw
          obtain ⟨w', hw', heq⟩ := List.mem_filterMap.1 hmem
          have hnot := hsilent w' (List.mem_append_left _ hw')
          obtain ⟨pre'', lw, post''⟩ := w'
          cases lw with
          | daemon lw =>
              have hlw : lw = w.label := congrArg Transition.label (Option.some.inj heq)
              rw [takesFrom_daemon, hlw] at hnot
              exact hnot
          | _ => cases heq
        have hlast : takesFrom c (.daemon label) = false :=
          hsilent _ (List.mem_append_right _ (List.mem_cons_self ..))
        obtain ⟨id, p, cmd, ctx, password, hs, hc, hopened, hanswered⟩ :=
          System.success_answers (c := c) hinit' hbefore hstep
            (hlabel ▸ command_of_takenBy htaken) rfl rfl
            (by rw [← answered_eq_repliesTo ht₁, ← handled_eq_commandsFrom ht₁, hmatched]) hquiet
            (by rw [hlabel', ← takesFrom_daemon]; exact hlast) (hlabel' ▸ hsend)
        refine ⟨tr₁, _, u, _, v ++ tr₃, rfl, hcount, htaken, fun w hw => ?_, y, y', id, p, cmd, ctx,
          password, congrArg some hy.symm, congrArg some hy'.symm, hs, hc, hopened, hanswered⟩
        rcases List.mem_append.1 hw with hw | hw
        · exact hsilent w (List.mem_append_left _ hw)
        · obtain rfl := List.mem_singleton.1 hw
          exact hlast
    | _ => cases htaken

section Client

variable {σ : Type} {sink : Sink σ} {messages : Codec Message} {client : IpcClient σ}
  {sent : List Request} {h : Handler}

/-- **What is granted has been consented to.** Let a client make calls over a connection of the
    server, each once the one before has returned. Whenever a `RequestElevation` of it returns
    `Success`, in whatever way the server's threads, connections, timer and signals came in
    between: the user of the session consented to this very request while the call was waiting. -/
theorem success_consented (hinit : Initial srv₀) (hrun : Run (Step codec) srv₀ tr srv)
    (hids : (spent tr).length ≤ u64Size) (hh : h ∈ srv.handlers) (hseq : Sequential h.connId tr)
    (hsink : sink.Lawful) (hcodec : codec.Lawful) (hmessages : messages.Lawful)
    (hconnects : Connects sink codec messages client sent h (wrote h.connId tr)) {k : ℕ}
    (hk : k < received h.connId tr) {s : SessionId} {action : ElevationAction}
    (hrequest : sent[k]? = some (.requestElevation s action))
    (hsuccess : (IpcClient.calls sink codec messages client sent).1[k]?
      = some (.ok (.authResult .success))) :
    Consented h.connId h.peer tr k s action := by
  obtain ⟨response, hwritten, hreply⟩ := exists_reply_of_received hinit hrun hids hh hk
  have hsent : k < sent.length := (List.getElem?_eq_some_iff.1 hrequest).1
  have hreturned := call_returns hmessages hconnects hsent hwritten
  obtain rfl : response = .authResult .success :=
    Except.ok.inj (Option.some.inj (hreturned.symm.trans hsuccess))
  obtain ⟨request, hrequest', hanswers⟩ := replies_answer hinit hrun hids hh hseq hreply
  rw [hconnects.readable hsink hcodec] at hrequest'
  obtain rfl := Option.some.inj (hrequest'.symm.trans hrequest)
  exact hanswers.consented hinit hrun hids hseq

end Client

section Example

/-- The daemon takes message after message, and nothing else happens. -/
theorem run_takes (env : Env) (messages : List ManagerMessage) (srv : Server)
    (hqueue : srv.queue = messages) :
    let done := forEach (fun d message => Daemon.handle d env (.ipc message)) srv.daemon messages
    ∃ tr, Run (Step codec) srv tr
        { srv with
          daemon := done.1
          queue := []
          handlers := srv.handlers.map (·.deliver done.2) }
      ∧ taken tr = messages ∧ spent tr = [] ∧ ∀ c, wrote c tr = [] := by
  induction messages generalizing srv with
  | nil =>
      refine ⟨[], ?_, rfl, rfl, fun _ => rfl⟩
      have hsame : srv.handlers.map (·.deliver []) = srv.handlers := by
        simp only [Handler.deliver_nil, List.map_id']
      have hsrv : { srv with queue := [], handlers := srv.handlers.map (·.deliver []) } = srv := by
        rw [hsame, ← hqueue]
      show Run (Step codec) srv []
        { srv with queue := [], handlers := srv.handlers.map (·.deliver []) }
      rw [hsrv]
      exact Run.nil
  | cons message rest ih =>
      have hfirst := Run.single (@Step.take codec srv env _ _ hqueue)
      obtain ⟨tr, hrun, htaken, hspent, hwrote⟩ :=
        ih ({ srv with queue := rest }.handles env (.ipc message)) rfl
      simp only [handles, List.map_map, Function.comp_def, Handler.deliver_deliver] at hrun
      exact ⟨_, hfirst.append hrun, congrArg (message :: ·) htaken, hspent, hwrote⟩

/-- The program that asks. -/
private def asker : PeerCred := { uid := 900, gid := 900, pid := 1 }

private def saving : ElevationAction := ⟨"editor", "save a file", .elevated, ""⟩

private def creation : List UInt8 :=
  leBytes 4 0 ++ leBytes 8 5 ++ [97, 108, 105, 99, 101] ++ [0] ++ [0]

private def registration : List UInt8 := leBytes 4 2 ++ leBytes 4 1

private def question : List UInt8 :=
  leBytes 4 15 ++ leBytes 4 1 ++ leBytes 8 6 ++ [101, 100, 105, 116, 111, 114] ++ leBytes 8 11
    ++ [115, 97, 118, 101, 32, 97, 32, 102, 105, 108, 101] ++ leBytes 4 0 ++ leBytes 8 0

private def assent : List UInt8 :=
  leBytes 4 16 ++ leBytes 8 1 ++ leBytes 4 0 ++ leBytes 8 7 ++ [104, 117, 110, 116, 101, 114, 50]

/-- `bincode`'s layout of four requests. -/
private def scriptCodec : Codec Request :=
  Codec.ofTable [(.createSession "alice" none none, creation),
    (.registerCompositor 1, registration), (.requestElevation 1 saving, question),
    (.respondElevation 1 (.password "hunter2"), assent)]

private theorem scriptCodec_lawful : scriptCodec.Lawful :=
  Codec.ofTable_lawful (by decide)

/-- `bincode`'s layout of `Response::AuthResult(AuthOutcome::Success)`. -/
private def grant : List UInt8 := leBytes 4 0 ++ leBytes 4 3 ++ leBytes 4 0

private def grantCodec : Codec Message :=
  Codec.ofTable [(.response (.authResult .success), grant)]

private theorem read_creation (rest : List UInt8) :
    readMessage scriptCodec ⟨frame creation ++ rest, none⟩
      = (.ok (.createSession "alice" none none), ⟨rest, none⟩) :=
  readMessage_frame scriptCodec_lawful (by rfl) (by decide)

private theorem read_registration (rest : List UInt8) :
    readMessage scriptCodec ⟨frame registration ++ rest, none⟩
      = (.ok (.registerCompositor 1), ⟨rest, none⟩) :=
  readMessage_frame scriptCodec_lawful (by rfl) (by decide)

private theorem read_question (rest : List UInt8) :
    readMessage scriptCodec ⟨frame question ++ rest, none⟩
      = (.ok (.requestElevation 1 saving), ⟨rest, none⟩) :=
  readMessage_frame scriptCodec_lawful (by rfl) (by decide)

private theorem read_assent (rest : List UInt8) :
    readMessage scriptCodec ⟨frame assent ++ rest, none⟩
      = (.ok (.respondElevation 1 (.password "hunter2")), ⟨rest, none⟩) :=
  readMessage_frame scriptCodec_lawful (by rfl) (by decide)

/-- What the two connections say. -/
private def script : List ManagerMessage :=
  [.connected 1 visitor {},
    .command { connId := 1, peer := visitor, request := .createSession "alice" none none },
    .command { connId := 1, peer := visitor, request := .registerCompositor 1 },
    .connected 2 asker {},
    .command { connId := 2, peer := asker, request := .requestElevation 1 saving },
    .command
      { connId := 1, peer := visitor, request := .respondElevation 1 (.password "hunter2") }]

/-- Alice's compositor comes, then the asker; both say their part before the daemon takes any of
    it. -/
private theorem script_said :
    ∃ tr srv, Run (Step scriptCodec) { daemon := Daemon.demo } tr srv ∧ spent tr = [1, 2]
      ∧ (∀ c, wrote c tr = []) ∧ taken tr = [] ∧ srv.daemon = Daemon.demo ∧ srv.queue = script
      ∧ ∃ compositor, srv.handlers = [compositor,
        { connId := 2, peer := asker, stream := ⟨frame question ++ [], none⟩
          input := ⟨[], none⟩, reader := .reading, writer := .receiving }] := by
  have haccepted : Run (Step scriptCodec) { daemon := Daemon.demo } _ _ :=
    Run.single (Step.accept _ visitor
      ⟨frame creation ++ (frame registration ++ (frame assent ++ [])), none⟩)
  have hannounced := haccepted.snoc (Step.thread _ (i := 0) rfl (Handler.Step.announce _ rfl))
  have hspawned := hannounced.snoc (Step.thread _ (i := 0) rfl (Handler.Step.spawn _ rfl))
  have hcreation := hspawned.snoc
    (Step.thread _ (i := 0) rfl (Handler.Step.request _ rfl (read_creation _)))
  have hregistration := hcreation.snoc
    (Step.thread _ (i := 0) rfl (Handler.Step.request _ rfl (read_registration _)))
  have haccepted' := hregistration.snoc (Step.accept _ asker ⟨frame question ++ [], none⟩)
  have hannounced' := haccepted'.snoc (Step.thread _ (i := 1) rfl (Handler.Step.announce _ rfl))
  have hspawned' := hannounced'.snoc (Step.thread _ (i := 1) rfl (Handler.Step.spawn _ rfl))
  have hquestion := hspawned'.snoc
    (Step.thread _ (i := 1) rfl (Handler.Step.request _ rfl (read_question _)))
  have hassent := hquestion.snoc
    (Step.thread _ (i := 0) rfl (Handler.Step.request _ rfl (read_assent _)))
  exact ⟨_, _, hassent, rfl, fun c => by simp [wrote, wroteBy, HandlerAct.toPeer], rfl, rfl, rfl, _,
    rfl⟩

/-- What the daemon puts into the asker's outbox. -/
private theorem script_answer :
    queuedFor 2 (forEach (fun d message => Daemon.handle d (demoEnv 0) (.ipc message)) Daemon.demo
      script).2 = [.response (.authResult .success)] := by
  decide

/-- The whole conversation, up to where the answer has been written. -/
private theorem script_written :
    ∃ (tr : List (Transition Server ServerLabel)) (srv : Server),
      Run (Step scriptCodec) { daemon := Daemon.demo } tr srv ∧ spent tr = [1, 2]
        ∧ asked 2 tr ≤ 1 ∧ wrote 2 tr = [.response (.authResult .success)]
        ∧ ∃ h ∈ srv.handlers, h.connId = 2 ∧ h.peer = asker
          ∧ h.stream = ⟨frame question ++ [], none⟩ := by
  obtain ⟨tr₁, srv₁, hsaid, hspent₁, hwrote₁, htaken₁, hdaemon, hqueue, compositor, hhandlers⟩ :=
    script_said
  obtain ⟨tr₂, htakes, htaken₂, hspent₂, hwrote₂⟩ :=
    @run_takes scriptCodec (demoEnv 0) script srv₁ hqueue
  have hanswer := script_answer
  rw [hdaemon, hhandlers] at htakes
  generalize forEach (fun d message => Daemon.handle d (demoEnv 0) (.ipc message)) Daemon.demo
    script = done at hanswer htakes
  have hrun := hsaid.append htakes
  have hspent : spent (tr₁ ++ tr₂) = [1, 2] := by
    rw [spent, List.filterMap_append]
    exact congrArg₂ (· ++ ·) hspent₁ hspent₂
  have htaken : taken (tr₁ ++ tr₂) = script := by
    rw [taken, List.filterMap_append]
    exact congrArg₂ (· ++ ·) htaken₁ htaken₂
  have hwrote : wrote 2 (tr₁ ++ tr₂) = [] := by
    rw [wrote, List.filterMap_append]
    exact congrArg₂ (· ++ ·) (hwrote₁ 2) (hwrote₂ 2)
  have horderly := orderly ⟨Daemon.demo, Daemon.demo_initial, rfl⟩ hrun (by rw [hspent]; decide)
  have hasked : asked 2 (tr₁ ++ tr₂) = 1 := by
    rw [asked, horderly.queue, htaken]
    show (script ++ []).countP _ = 1
    decide
  have hreceived := hrun.snoc (Step.thread _ (i := 1) rfl (Handler.Step.receive _ rfl
    (show [] ++ queuedFor 2 done.2 = _ by rw [hanswer]; rfl)))
  have hwritten := hreceived.snoc (Step.thread _ (i := 1) rfl (Handler.Step.written _ rfl))
  refine ⟨_, _, hwritten, ?_, ?_, ?_, _, List.mem_cons_of_mem _ (List.mem_singleton_self _), rfl,
    rfl, rfl⟩
  · rw [spent_snoc, spent_snoc, hspent]
    rfl
  · rw [asked_snoc, asked_snoc, hasked]
    exact Nat.le_refl 1
  · rw [wrote_snoc, wrote_snoc, hwrote]
    rfl

/-- The asker's call returns `Success`, and Alice has consented. -/
theorem grant_consented :
    ∃ (tr : List (Transition Server ServerLabel)) (client : IpcClient (List UInt8)),
      (IpcClient.calls Sink.buffer scriptCodec grantCodec client
          [.requestElevation 1 saving]).1[0]? = some (.ok (.authResult .success))
        ∧ Consented 2 asker tr 0 1 saving := by
  obtain ⟨tr, srv, hrun, hspent, hasked, hwrote, h, hh, hconnId, hpeer, hstream⟩ := script_written
  have hinit : Initial { daemon := Daemon.demo } := ⟨Daemon.demo, Daemon.demo_initial, rfl⟩
  have hids : (spent tr).length ≤ u64Size := by
    rw [hspent]
    decide
  let client : IpcClient (List UInt8) := { reader := ⟨frame grant, none⟩, writer := [] }
  have hserialize : scriptCodec.serialize (.requestElevation 1 saving) = .ok question := by rfl
  have hconnects : Connects Sink.buffer scriptCodec grantCodec client [.requestElevation 1 saving] h
      (wrote h.connId tr) := by
    refine ⟨⟨frame question, writes_buffer hserialize (by decide), ?_⟩, ?_, [grant], [], ?_, ?_, ?_⟩
    · rw [hstream]
      rfl
    · simp only [List.forall_mem_singleton]
      intro payload hpayload
      obtain rfl := Except.ok.inj (hserialize.symm.trans hpayload)
      decide
    · rw [hconnId, hwrote]
      exact List.Forall₂.cons (by rfl) List.Forall₂.nil
    · decide
    · rfl
  have hmessages : grantCodec.Lawful := Codec.ofTable_lawful (by decide)
  have hcalls : (IpcClient.calls Sink.buffer scriptCodec grantCodec client
      [.requestElevation 1 saving]).1[0]? = some (.ok (.authResult .success)) :=
    call_returns hmessages hconnects (by decide) (by rw [hconnId, hwrote]; rfl)
  have hconsented := success_consented hinit hrun hids hh
    (sequential_of_le_one (by rw [hconnId]; exact hasked)) Sink.buffer_lawful scriptCodec_lawful
    hmessages hconnects (k := 0)
    (by rw [hconnId, received, hwrote]; decide) rfl hcalls
  rw [hconnId, hpeer] at hconsented
  exact ⟨tr, client, hcalls, hconsented⟩

end Example

end Server

end MitosSession
