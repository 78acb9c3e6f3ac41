import MitosSession.Daemon.Engage
import MitosSession.Daemon.Ownership
import MitosSession.Daemon.Replies
import MitosSession.Daemon.Screen

set_option autoImplicit false

/-! # When no connection handle dangles

Sessions remember the connection of their compositor, and prompts those of the compositor they are
shown on and of their requester. `Disconnected` cleans all three up. `handle_compositor_exit` drops
the connection of the compositor that exited as well, but clears the one record it found: another
session on that connection, a prompt shown on it, or a request that still comes in on it are left
with a handle that leads nowhere.

`Tidy` is the condition that this does not happen; along every run of tidy steps the registry knows
every handle (`handles_known`). -/

namespace MitosSession

namespace Daemon

/-- The registry knows every connection that a session or a prompt refers to. -/
structure Wired (d : Daemon) : Prop where
  compositor : ∀ s ctx c, d.sessions.sessions.lookup s = some ctx → ctx.compositorConn = some c →
    d.registry.knows c = true
  promptCompositor : ∀ id p, d.elevation.pending.lookup id = some p →
    d.registry.knows p.compositorConn = true
  promptRequester : ∀ id p, d.elevation.pending.lookup id = some p →
    d.registry.knows p.requesterConn = true

/-- The connection of a compositor that exited serves no other session, and no prompt refers to
    it. -/
def ExitAlone (d : Daemon) (child : ReapedChild) : Prop :=
  ExitHeard d child
    ∧ ∀ s ctx c id p, d.sessions.sessions.lookup s = some ctx →
      ctx.compositorProcess = some child.pid → ctx.compositorConn = some c →
      d.elevation.pending.lookup id = some p → p.compositorConn ≠ c ∧ p.requesterConn ≠ c

/-- What a step must not do for no handle to dangle. -/
def Tidy (d : Daemon) (env : Env) : DaemonEvent → Prop
  | .ipc (.command cmd) =>
    authorize env.userByName cmd.peer cmd.connId cmd.request d.sessions d.elevation = .ok () →
      match cmd.request with
      -- a connection dropped with its compositor process may still send requests
      | .registerCompositor s =>
        (∃ ctx, d.sessions.sessions.lookup s = some ctx) → d.registry.knows cmd.connId = true
      | .requestElevation s _ => d.hasCompositor s = true → d.registry.knows cmd.connId = true
      | _ => True
  | .signal (.reapChildren children) => Along ExitAlone handleCompositorExit d children
  | _ => True

/-- The same for the steps of a run. -/
def TidyStep (x : Transition System DaemonLabel) : Prop :=
  match x.label with
  | .handled env event _ => Tidy x.pre.daemon env event
  | .rehash => True

variable {d d' : Daemon} {env : Env} {effects : List Effect}

/-! ## Who writes to the registry -/

theorem onIdleTick_registry : (d.onIdleTick env).1.registry = d.registry := by
  have hloop : ∀ (changes : List (String × IdleStage)) (d : Daemon),
      (forEach (idleChange env) d changes).1.registry = d.registry := by
    intro changes
    induction changes with
    | nil => exact fun _ => rfl
    | cons change rest ih => exact fun d => (ih _).trans (idleChange_registry change)
  exact hloop _ _

/-- Requests, ticks and other signals leave the registry alone. -/
theorem handle_registry (event : DaemonEvent)
    (hevent : (∃ cmd, event = .ipc (.command cmd)) ∨ event = .idleTick ∨ event = .signal .terminate
      ∨ event = .signal .reloadConfig) :
    (d.handle env event).1.registry = d.registry := by
  rcases hevent with ⟨cmd, rfl⟩ | rfl | rfl | rfl
  · simp only [handle, handleIpc, handleCommand]
    split
    · rfl
    · exact dispatch_registry cmd.connId cmd.request
  · exact onIdleTick_registry
  · rfl
  · simp only [handle, onSignal, reloadConfig]
    split <;> rfl

/-! ## One event -/

/-- Where no compositor registers, the connection in a record was in it before. -/
theorem Evolves.compositorConn (h : Evolves none d effects d') {s : SessionId}
    {ctx' : SessionContext} {c : ConnId} (hctx' : d'.sessions.sessions.lookup s = some ctx')
    (hc : ctx'.compositorConn = some c) :
    ∃ ctx, d.sessions.sessions.lookup s = some ctx ∧ ctx.compositorConn = some c := by
  obtain ⟨ctx, hctx, hevolved⟩ := h.2 s ctx' hctx'
  refine ⟨ctx, hctx, ?_⟩
  rcases hevolved.conn with hnone | hsame | ⟨cmd, hcmd, -⟩
  · rw [hnone] at hc
    cases hc
  · rw [← hsame]
    exact hc
  · cases hcmd

theorem handle_compositorConn (event : DaemonEvent)
    (hevent : ∀ cmd id, event.command = some cmd → cmd.request ≠ .registerCompositor id)
    {s : SessionId} {ctx' : SessionContext} {c : ConnId}
    (hctx' : (d.handle env event).1.sessions.sessions.lookup s = some ctx')
    (hc : ctx'.compositorConn = some c) :
    ∃ ctx, d.sessions.sessions.lookup s = some ctx ∧ ctx.compositorConn = some c := by
  obtain ⟨d₁, henters, hevolves⟩ : ∃ d₁, Enters d d₁ ∧ Evolves none d₁ _ _ :=
    handle_evolves_as d env event fun cmd id hcmd hrequest => absurd hrequest (hevent cmd id hcmd)
  obtain ⟨ctx, hctx, hsame⟩ := hevolves.compositorConn hctx' hc
  cases henters with
  | none => exact ⟨ctx, hctx, hsame⟩
  | spent => exact ⟨ctx, hctx, hsame⟩
  | entered new hid hstate hconn =>
      simp only [Table.lookup_insert_eq] at hctx
      split at hctx
      · -- a new session has no compositor yet
        obtain rfl := Option.some.inj hctx
        rw [hconn] at hsame
        cases hsame
      · exact ⟨ctx, hctx, hsame⟩

theorem Wired.connected (h : Wired d) (connId : ConnId) (outbox : OutboxSender) :
    Wired { d with registry := d.registry.register connId outbox } := by
  have hmono : ∀ c, d.registry.knows c = true →
      (d.registry.register connId outbox).knows c = true := by
    intro c hc
    rw [ConnRegistry.knows_register, hc]
    split <;> rfl
  exact ⟨fun s ctx c hctx hc => hmono c (h.compositor s ctx c hctx hc),
    fun id p hp => hmono _ (h.promptCompositor id p hp),
    fun id p hp => hmono _ (h.promptRequester id p hp)⟩

/-- `Disconnected` clears every handle it invalidates. -/
theorem Wired.disconnected (h : Wired d) (connId : ConnId) : Wired (d.disconnected connId).1 := by
  have hother : ∀ c, c ≠ connId → d.registry.knows c = true →
      (d.disconnected connId).1.registry.knows c = true := by
    intro c hne hc
    simp only [Daemon.disconnected, ConnRegistry.knows_unregister, if_neg hne, hc]
  have hnarrows : Narrows d _ (d.disconnected connId).1 := (disconnected_changes connId).narrows
  refine ⟨fun s ctx' c hctx' hc => ?_, fun id p hp => ?_, fun id p hp => ?_⟩
  · have hevolves : Evolves none d _ (d.disconnected connId).1 :=
      (disconnected_changes connId).evolves
    obtain ⟨ctx, hctx, hsame⟩ := hevolves.compositorConn hctx' hc
    have hne : c ≠ connId := by
      rintro rfl
      exact System.disconnected_compositorConn d c hctx' hc
    exact hother c hne (h.compositor s ctx c hctx hsame)
  · exact hother _ (System.disconnected_pending d connId hp).1
      (h.promptCompositor id p (hnarrows.2 id p hp))
  · exact hother _ (System.disconnected_pending d connId hp).2
      (h.promptRequester id p (hnarrows.2 id p hp))

/-- An event that leaves the registry alone, registers no compositor and opens no prompt. -/
theorem Wired.quiet (h : Wired d) (event : DaemonEvent)
    (hregistry : (d.handle env event).1.registry = d.registry)
    (hevent : ∀ cmd id, event.command = some cmd → cmd.request ≠ .registerCompositor id)
    (hnarrows : Narrows d (d.handle env event).2 (d.handle env event).1) :
    Wired (d.handle env event).1 := by
  refine ⟨fun s ctx' c hctx' hc => ?_, fun id p hp => ?_, fun id p hp => ?_⟩
  all_goals rw [hregistry]
  · obtain ⟨ctx, hctx, hsame⟩ := handle_compositorConn event hevent hctx' hc
    exact h.compositor s ctx c hctx hsame
  · exact h.promptCompositor id p (hnarrows.2 id p hp)
  · exact h.promptRequester id p (hnarrows.2 id p hp)

/-- The same for an event that no command is. -/
theorem Wired.unasked (h : Wired d) {event : DaemonEvent} (hevent : event.command = none)
    (hregistry : (d.handle env event).1.registry = d.registry) : Wired (d.handle env event).1 := by
  refine h.quiet event hregistry (by simp [hevent]) ?_
  rcases handle_prompts d env event with hnarrows | ⟨cmd, id, s, ctx, conn, rfl, -⟩
  · exact hnarrows
  · cases hevent

/-- A registration that comes in on a connection the registry knows. -/
theorem Wired.registered (h : Wired d) {cmd : ManagerCommand} {s : SessionId}
    (hrequest : cmd.request = .registerCompositor s)
    (hknows : d.registry.knows cmd.connId = true) :
    Wired (d.handle env (.ipc (.command cmd))).1 := by
  have hnarrows : Narrows d [] (d.handle env (.ipc (.command cmd))).1 := by
    rcases handle_prompts d env (.ipc (.command cmd)) with
      hnarrows | ⟨cmd', id, s', ctx, conn, hcmd, hopens⟩
    · exact hnarrows
    · obtain rfl := ManagerMessage.command.inj (DaemonEvent.ipc.inj hcmd)
      obtain ⟨action, helevation⟩ := hopens.request
      rw [hrequest] at helevation
      cases helevation
  refine ⟨fun s ctx' c hctx' hc => ?_, fun id p hp => ?_, fun id p hp => ?_⟩
  all_goals rw [handle_registry _ (Or.inl ⟨cmd, rfl⟩)]
  · have hevolved : ∀ ctx, Evolved (some cmd) ctx ctx' →
        (ctx.compositorConn = some c → d.registry.knows c = true) → d.registry.knows c = true := by
      intro ctx hevolved hold
      rcases hevolved.conn with hnone | hsame | ⟨cmd', hcmd, hconn, -⟩
      · rw [hnone] at hc
        cases hc
      · exact hold (hsame ▸ hc)
      · obtain rfl := Option.some.inj hcmd
        obtain rfl := Option.some.inj (hconn.symm.trans hc)
        exact hknows
    rcases System.handle_record d env (.ipc (.command cmd)) hctx' with
      ⟨ctx, hctx, hrecord⟩ | ⟨-, -, ctx, hnone, hrecord⟩
    · exact hevolved ctx hrecord (h.compositor _ ctx c hctx)
    · refine hevolved ctx hrecord fun hsome => ?_
      rw [hnone] at hsome
      cases hsome
  · exact h.promptCompositor id p (hnarrows.2 id p hp)
  · exact h.promptRequester id p (hnarrows.2 id p hp)

theorem Wired.command (h : Wired d) {cmd : ManagerCommand}
    (htidy : Tidy d env (.ipc (.command cmd))) : Wired (d.handle env (.ipc (.command cmd))).1 := by
  by_cases hregister : ∃ s, cmd.request = .registerCompositor s
  · obtain ⟨s, hrequest⟩ := hregister
    by_cases hok : authorize env.userByName cmd.peer cmd.connId cmd.request d.sessions d.elevation
        = .ok () ∧ ∃ ctx, d.sessions.sessions.lookup s = some ctx
    · have hknows := htidy hok.1
      simp only [hrequest] at hknows
      exact h.registered hrequest (hknows hok.2)
    · obtain ⟨response, heq⟩ := registration_refused hrequest fun ctx hauth hctx =>
        hok ⟨hauth, ctx, hctx⟩
      rw [heq]
      exact h
  · have hevent : ∀ cmd' id, (DaemonEvent.ipc (.command cmd)).command = some cmd' →
        cmd'.request ≠ .registerCompositor id := by
      rintro cmd' id hcmd hrequest
      obtain rfl := Option.some.inj hcmd
      exact hregister ⟨id, hrequest⟩
    have hregistry : (d.handle env (.ipc (.command cmd))).1.registry = d.registry :=
      handle_registry _ (Or.inl ⟨cmd, rfl⟩)
    rcases handle_prompts d env (.ipc (.command cmd)) with
      hnarrows | ⟨cmd', id₁, s, ctx, conn, hcmd, hopens⟩
    · exact h.quiet _ hregistry hevent hnarrows
    · obtain rfl := ManagerMessage.command.inj (DaemonEvent.ipc.inj hcmd)
      obtain ⟨action, hrequest⟩ := hopens.request
      have hknows := htidy hopens.authorized
      simp only [hrequest] at hknows
      have hrequester := hknows (hasCompositor_of_lookup hopens.known hopens.conn)
      -- the new prompt, or one that was open before
      have hcases : ∀ id p, (d.handle env (.ipc (.command cmd))).1.elevation.pending.lookup id
          = some p → p = { sessionId := s, compositorConn := conn, requesterConn := cmd.connId }
            ∨ d.elevation.pending.lookup id = some p := by
        intro id p hp
        rw [hopens.pending, Table.lookup_insert_eq] at hp
        split at hp
        · exact Or.inl (Option.some.inj hp).symm
        · exact Or.inr hp
      refine ⟨fun s ctx' c hctx' hc => ?_, fun id p hp => ?_, fun id p hp => ?_⟩
      all_goals rw [hregistry]
      · rw [hopens.sessions] at hctx'
        exact h.compositor s ctx' c hctx' hc
      · rcases hcases id p hp with rfl | hold
        · exact h.compositor s ctx conn hopens.known hopens.conn
        · exact h.promptCompositor id p hold
      · rcases hcases id p hp with rfl | hold
        · exact hrequester
        · exact h.promptRequester id p hold

/-! ## Compositor exits -/

theorem ExitAlone.wired {child : ReapedChild} (h : ExitAlone d child) (hwired : Wired d) :
    Wired (d.handleCompositorExit child).1 := by
  obtain hnone | ⟨key, found, hfound, hpid, hregistry, hchanges⟩ :=
    handleCompositorExit_loses (d := d) child
  · rw [hnone]
    exact hwired
  · have hstays : ∀ c, found.compositorConn ≠ some c → d.registry.knows c = true →
        (d.loseCompositor key found).registry.knows c = true := by
      intro c hne hc
      unfold loseCompositor
      cases hconn : found.compositorConn with
      | none => exact hc
      | some conn =>
          have hother : c ≠ conn := by
            rintro rfl
            exact hne hconn
          simp only [ConnRegistry.knows_unregister, if_neg hother, hc]
    refine ⟨fun s ctx' c hctx' hc => ?_, fun id p hp => ?_, fun id p hp => ?_⟩
    all_goals rw [hregistry]
    · have hevolves : Evolves none (d.loseCompositor key found) _ _ := hchanges.evolves
      obtain ⟨ctx, hctx, hsame⟩ := hevolves.compositorConn hctx' hc
      simp only [loseCompositor, SessionManager.update_lookup] at hctx
      split at hctx
      · obtain ⟨ctx, -, rfl⟩ := Option.map_eq_some_iff.1 hctx
        cases hsame
      · rename_i hs
        exact hstays c (fun hconn => hs (h.1 key found c hfound hpid hconn s ctx hctx hsame))
          (hwired.compositor s ctx c hctx hsame)
    · rw [handleCompositorExit_elevation] at hp
      exact hstays _ (fun hconn => (h.2 key found _ id p hfound hpid hconn hp).1 rfl)
        (hwired.promptCompositor id p hp)
    · rw [handleCompositorExit_elevation] at hp
      exact hstays _ (fun hconn => (h.2 key found _ id p hfound hpid hconn hp).2 rfl)
        (hwired.promptRequester id p hp)

theorem Wired.reaped (h : Wired d) (children : List ReapedChild)
    (halone : Along ExitAlone handleCompositorExit d children) :
    Wired (d.reapChildren children).1 := by
  have hclosed : SeqClosed fun (d : Daemon) (_ : List Effect) (d' : Daemon) => Wired d → Wired d' :=
    ⟨fun _ h => h, fun h h' hd => h' (h hd)⟩
  exact hclosed.loop_along handleCompositorExit (fun d child halone => halone.wired) children d
    halone h

/-! ## Whole runs -/

theorem Wired.handle (h : Wired d) (event : DaemonEvent) (htidy : Tidy d env event) :
    Wired (d.handle env event).1 := by
  match event with
  | .ipc (.connected connId peer outbox) => exact h.connected connId outbox
  | .ipc (.disconnected connId) => exact h.disconnected connId
  | .ipc (.command cmd) => exact h.command htidy
  | .idleTick => exact h.unasked rfl (handle_registry _ (by simp))
  | .signal .terminate => exact h.unasked rfl (handle_registry _ (by simp))
  | .signal .reloadConfig => exact h.unasked rfl (handle_registry _ (by simp))
  | .signal (.reapChildren children) => exact h.reaped children htidy

theorem Wired.rehash (h : Wired d) (hr : Rehash d d') : Wired d' := by
  refine ⟨fun s ctx c hctx hc => ?_, fun id p hp => ?_, fun id p hp => ?_⟩
  all_goals rw [hr.registry.knows_eq]
  · rw [hr.sessions.sessions.lookup_eq] at hctx
    exact h.compositor s ctx c hctx hc
  · rw [hr.elevation.pending.lookup_eq] at hp
    exact h.promptCompositor id p hp
  · rw [hr.elevation.pending.lookup_eq] at hp
    exact h.promptRequester id p hp

/-- **When no handle dangles.** Along every run of tidy steps, with the connections as their threads
    announce them, the registry knows every connection that a session or an open prompt refers
    to: if each compositor that exits is the only one to use its connection, with no prompt on it,
    and compositors register and prompts are requested on connections the registry knows. -/
theorem handles_known {sys₀ sys : System} {tr : List (Transition System DaemonLabel)}
    (hinit : System.Initial sys₀) (hrun : Run System.Step sys₀ tr sys)
    (htidy : ∀ x ∈ tr, TidyStep x) :
    Wired sys.daemon ∧ ∀ x ∈ tr, Wired x.post.daemon := by
  refine hrun.forall_transitions (I := fun sys => Wired sys.daemon) (G := TidyStep)
    (Q := fun x => Wired x.post.daemon) ?_ htidy ?_
  · obtain ⟨_, _, _, _, _, _, heq⟩ := hinit.1.eq
    rw [heq]
    exact ⟨by simp, by simp, by simp⟩
  · intro sys l sys' h hstep htidy
    have hwired : Wired sys'.daemon := by
      cases hstep with
      | handled env event _ => exact h.handle event htidy
      | rehash hr => exact h.rehash hr
    exact ⟨hwired, hwired⟩

section Example

/-- The requester has a prompt opened on Alice's compositor, and then comes something else. -/
private def openedThen (event : DaemonEvent) : List (Env × DaemonEvent) :=
  demoThen ([demoConnect 9 900,
    .ipc (.command (demoCommand 9 900
      (.requestElevation 1 ⟨"editor", "save a file", .elevated, ""⟩))),
    event].map fun event => (demoEnv 0, event))

/-- When her compositor disconnects, its prompt goes with it. -/
theorem disconnect_leaves_no_handle :
    Wired (System.demo.replay (openedThen (.ipc (.disconnected 7)))).daemon := by
  refine (handles_known System.demo_initial (System.run_replay (by decide)) ?_).1
  exact List.forall_mem_cons.2 ⟨trivial, List.forall_mem_cons.2 ⟨fun _ => trivial,
    List.forall_mem_cons.2 ⟨fun _ _ => rfl, List.forall_mem_cons.2 ⟨trivial,
      List.forall_mem_cons.2 ⟨fun _ _ => rfl, List.forall_mem_cons.2 ⟨trivial,
        List.forall_mem_nil _⟩⟩⟩⟩⟩⟩

/-- When her compositor crashes, the prompt stays behind on a connection that is gone. -/
theorem crash_leaves_handle :
    ¬ ∀ (sys₀ sys : System) (tr : List (Transition System DaemonLabel)), System.Initial sys₀ →
      Run System.Step sys₀ tr sys → Wired sys.daemon := by
  intro hclaim
  have hrun : Run System.Step System.demo (System.transitions System.demo
      (openedThen (.signal (.reapChildren [⟨4242, .ok 4243⟩])))) _ := System.run_replay (by decide)
  have hknows := (hclaim _ _ _ System.demo_initial hrun).promptCompositor 1 _ rfl
  revert hknows
  decide

end Example

end Daemon

end MitosSession
