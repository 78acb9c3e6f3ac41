import MitosSession.Daemon.Prompts

set_option autoImplicit false

/-! # Every request gets exactly one reply

A connection's commands are answered at once, all but a `RequestElevation` that opens a prompt: its
reply comes when the prompt ends, from whichever handler ends it. So the commands handled from a
connection, the responses put into its outbox and the prompts it waits for are in balance, as long
as the registry knows the connection.

`Balanced` is the conservation law of everything but the command itself: each response sent beside
the reply closes one prompt of the connection it goes to. -/

namespace MitosSession

/-- The effect puts a response into the outbox of `c`. -/
def Effect.respondsTo (c : ConnId) : Effect → Bool
  | .send conn (.response _) true => conn = c
  | _ => false

/-- How many responses the effects put into the outbox of `c`. -/
def responsesTo (c : ConnId) (effects : List Effect) : ℕ :=
  effects.countP (Effect.respondsTo c)

theorem responsesTo_append (c : ConnId) (effects effects' : List Effect) :
    responsesTo c (effects ++ effects') = responsesTo c effects + responsesTo c effects' :=
  List.countP_append

theorem responsesTo_notice {c : ConnId} {effects : List Effect}
    (h : ∀ e ∈ effects, e.isNotice = true) : responsesTo c effects = 0 := by
  refine List.countP_eq_zero.2 fun e he hresponds => ?_
  have hnotice := h e he
  unfold Effect.respondsTo at hresponds
  split at hresponds
  · simp [Effect.isNotice] at hnotice
  · cases hresponds

theorem responsesTo_sendResponse (registry : ConnRegistry) (c conn : ConnId)
    (response : Response) :
    responsesTo c [registry.sendResponse conn response]
      = if conn = c ∧ registry.knows c = true then 1 else 0 := by
  by_cases hc : conn = c
  · subst hc
    cases hk : registry.knows conn <;>
      simp [responsesTo, ConnRegistry.sendResponse, Effect.respondsTo, hk]
  · cases hk : registry.knows conn <;>
      simp [responsesTo, ConnRegistry.sendResponse, Effect.respondsTo, hk, hc]

namespace Daemon

/-- How many open prompts will be answered to `c`. -/
def awaitedBy (c : ConnId) (d : Daemon) : ℕ :=
  d.elevation.pending.countVal fun p => p.requesterConn = c

/-- The conservation law: towards a connection known throughout, responses sent and prompts still
    open make up for the prompts open before; an unknown one stays unknown and is sent nothing. -/
structure Balanced (c : ConnId) (d : Daemon) (effects : List Effect) (d' : Daemon) : Prop where
  unknown : d.registry.knows c = false →
    d'.registry.knows c = false ∧ responsesTo c effects = 0
  known : d'.registry.knows c = true → responsesTo c effects + awaitedBy c d' = awaitedBy c d
  awaited : awaitedBy c d' ≤ awaitedBy c d

theorem balanced_seqClosed (c : ConnId) : SeqClosed (Balanced c) where
  refl := fun _ => ⟨fun h => ⟨h, rfl⟩, fun _ => Nat.zero_add _, le_refl _⟩
  trans := by
    intro d d' d'' effects effects' h h'
    refine ⟨fun hk => ?_, fun hk'' => ?_, le_trans h'.awaited h.awaited⟩
    · obtain ⟨hk', hnone⟩ := h.unknown hk
      obtain ⟨hk'', hnone'⟩ := h'.unknown hk'
      refine ⟨hk'', ?_⟩
      rw [responsesTo_append, hnone, hnone']
    · -- known at the end is known in between: nothing in a chain registers a connection
      have hk' : d'.registry.knows c = true := by
        by_contra hno
        have := (h'.unknown (by simpa using hno)).1
        rw [this] at hk''
        cases hk''
      rw [responsesTo_append, ← h.known hk', ← h'.known hk'']
      omega

variable {c : ConnId} {cause : Option ManagerCommand} {d d' : Daemon} {env : Env}
  {effects : List Effect}

/-! ## One change -/

/-- Changes that leave registry and prompts alone, and send no response. -/
theorem Balanced.of_same (hregistry : d'.registry = d.registry)
    (hpending : d'.elevation.pending = d.elevation.pending)
    (hnone : responsesTo c effects = 0) : Balanced c d effects d' := by
  have hawaited : awaitedBy c d' = awaitedBy c d := by
    simp only [awaitedBy, hpending]
  refine ⟨fun hk => ⟨by rw [hregistry]; exact hk, hnone⟩, fun _ => ?_, Nat.le_of_eq hawaited⟩
  rw [hnone, hawaited, Nat.zero_add]

/-- Dropping a connection from the registry. -/
theorem Balanced.of_unregister {conn : ConnId}
    (hregistry : d'.registry = d.registry.unregister conn)
    (hpending : d'.elevation.pending = d.elevation.pending) : Balanced c d [] d' := by
  have hawaited : awaitedBy c d' = awaitedBy c d := by
    simp only [awaitedBy, hpending]
  refine ⟨fun hk => ⟨?_, rfl⟩, fun _ => ?_, Nat.le_of_eq hawaited⟩
  · rw [hregistry, ConnRegistry.knows_unregister, hk, ite_self]
  · rw [hawaited]
    exact Nat.zero_add _

/-- The end of a prompt: one response to its requester, if that one is still known. -/
theorem Balanced.resolve {id : ElevationRequestId} {p : PendingElevation} (outcome : AuthOutcome)
    (hp : d.elevation.pending.lookup id = some p) :
    Balanced c d [d.registry.sendResponse p.requesterConn (.authResult outcome)]
      { d with elevation := d.elevation.close id } := by
  have hcount : awaitedBy c d = awaitedBy c { d with elevation := d.elevation.close id }
      + if p.requesterConn = c then 1 else 0 := by
    have herase := Table.countVal_erase (fun q : PendingElevation => q.requesterConn = c) hp
    simp only [decide_eq_true_eq] at herase
    exact herase
  refine ⟨fun hk => ⟨hk, ?_⟩, fun hk => ?_, by rw [hcount]; exact Nat.le_add_right _ _⟩
  · rw [responsesTo_sendResponse, hk]
    simp
  · have hk : d.registry.knows c = true := hk
    rw [responsesTo_sendResponse, hcount, hk]
    simp only [and_true]
    omega

theorem responsesTo_sendEventTo (registry : ConnRegistry) (conn : Option ConnId) (event : Event) :
    responsesTo c (registry.sendEventTo conn event) = 0 := by
  cases conn <;> simp [responsesTo, ConnRegistry.sendEventTo, ConnRegistry.sendEvent,
    Effect.respondsTo]

theorem Change.balanced (h : Change cause d effects d') : Balanced c d effects d' := by
  cases h with
  | notice h => exact Balanced.of_same rfl rfl (responsesTo_notice h)
  | disconnect conn => exact Balanced.of_unregister rfl rfl
  | registerCompositor hcause hrequest hctx hpeer =>
      refine Balanced.of_same (registerCompositor_registry ..)
        (by rw [registerCompositor_elevation]) ?_
      unfold Daemon.registerCompositor
      split
      · rfl
      · dsimp only
        split <;> rfl
  | lock reason hlock =>
      refine Balanced.of_same (showLock_registry ..) (by rw [showLock_elevation]) ?_
      unfold showLock
      split
      · rfl
      · exact responsesTo_sendEventTo ..
  | resolve outcome hp hsuccess => exact Balanced.resolve outcome hp
  | _ => exact Balanced.of_same rfl rfl rfl

theorem Changes.balanced (h : Changes cause d effects d') : Balanced c d effects d' :=
  (balanced_seqClosed c).chain h fun _ _ _ hchange => hchange.balanced

theorem idleSuspend_balanced : Balanced c d (d.idleSuspend env).2 (d.idleSuspend env).1 :=
  Balanced.of_same rfl rfl (responsesTo_notice (idleSuspend_isNotice d env))

theorem Acts.balanced (h : Acts d effects d') : Balanced c d effects d' := by
  refine (balanced_seqClosed c).chain h fun d effects d' hact => ?_
  cases hact with
  | change hchange => exact hchange.balanced
  | suspend env => exact idleSuspend_balanced
  | @lose key found hfound =>
      cases hconn : found.compositorConn with
      | none => exact Balanced.of_same (by simp only [loseCompositor, hconn]) rfl rfl
      | some conn =>
          have hregistry : (d.loseCompositor key found).registry = d.registry.unregister conn := by
            simp only [loseCompositor, hconn]
          exact Balanced.of_unregister hregistry rfl

theorem Enters.balanced (h : Enters d d') : Balanced c d [] d' := by
  cases h <;> exact Balanced.of_same rfl rfl rfl

/-! ## One event -/

/-- The balance with the command of the event itself: `n` is 1 if it comes from `c`, else 0. -/
structure Served (c : ConnId) (n : ℕ) (d : Daemon) (effects : List Effect) (d' : Daemon) :
    Prop where
  unknown : d.registry.knows c = false →
    d'.registry.knows c = false ∧ responsesTo c effects = 0
  known : d'.registry.knows c = true → responsesTo c effects + awaitedBy c d' = awaitedBy c d + n
  awaited : awaitedBy c d' ≤ awaitedBy c d + n

theorem Balanced.served (h : Balanced c d effects d') : Served c 0 d effects d' :=
  ⟨h.unknown, h.known, h.awaited⟩

/-- A reply makes up for the command it answers. -/
theorem Balanced.reply (h : Balanced c d effects d') (conn : ConnId) (response : Response) :
    Served c (if conn = c then 1 else 0) d
      (effects ++ [d'.registry.sendResponse conn response]) d' := by
  refine ⟨fun hk => ?_, fun hk' => ?_, Nat.le_add_right_of_le h.awaited⟩
  · obtain ⟨hk', hnone⟩ := h.unknown hk
    refine ⟨hk', ?_⟩
    rw [responsesTo_append, responsesTo_sendResponse, hnone, hk']
    simp
  · rw [responsesTo_append, responsesTo_sendResponse, hk', ← h.known hk']
    simp only [and_true]
    omega

/-- An opened prompt stands for the reply still owed. -/
theorem Opens.served {cmd : ManagerCommand} {id : ElevationRequestId} {s : SessionId}
    {ctx : SessionContext} {conn : ConnId} (hreach : Reachable d)
    (h : Opens env d cmd id s ctx conn d') (hnone : responsesTo c effects = 0) :
    Served c (if cmd.connId = c then 1 else 0) d effects d' := by
  have hcount : awaitedBy c d' = awaitedBy c d + if cmd.connId = c then 1 else 0 := by
    have hfresh : id ∉ d.elevation.pending := h.fresh ▸ hreach.nextId_notMem
    have hinsert := Table.countVal_insert_of_notMem
      (fun q : PendingElevation => q.requesterConn = c)
      { sessionId := s, compositorConn := conn, requesterConn := cmd.connId } hfresh
    simp only [decide_eq_true_eq] at hinsert
    simp only [awaitedBy, h.pending]
    exact hinsert
  refine ⟨fun hk => ⟨by rw [h.registry]; exact hk, hnone⟩, fun _ => ?_, Nat.le_of_eq hcount⟩
  rw [hnone, hcount, Nat.zero_add]

theorem unlock_balanced (k : SessionId) (userName password : String) :
    Balanced c d (d.unlock env k userName password).effects
      (d.unlock env k userName password).daemon := by
  have hnone : ∀ calls event,
      responsesTo c (d.authEffects env calls ++ d.tells k event) = 0 := by
    intro calls event
    rw [responsesTo_append, responsesTo_notice (isNotice_authEffects d env calls)]
    unfold tells
    split
    · rw [responsesTo_sendEventTo]
    · rfl
  refine Balanced.of_same (unlock_registry ..) (by rw [unlock_elevation]) ?_
  by_cases hs : (d.unlockAttempt env k userName password).outcome = .success
  · rw [unlock_success hs]
    exact hnone _ _
  · rw [unlock_failure hs]
    exact hnone _ _

theorem handle_served (hreach : Reachable d) (event : DaemonEvent)
    (hne : ∀ peer outbox, event ≠ .ipc (.connected c peer outbox)) :
    Served c
      (if (DaemonLabel.handled env event (d.handle env event).2).isCommandFrom c then 1 else 0)
      d (d.handle env event).2 (d.handle env event).1 := by
  have hcommand : ∀ (cmd : ManagerCommand) (effects : List Effect),
      (if (DaemonLabel.handled env (.ipc (.command cmd)) effects).isCommandFrom c then 1 else 0)
        = if cmd.connId = c then 1 else 0 := by
    intro cmd effects
    simp [DaemonLabel.isCommandFrom, DaemonLabel.command]
  have hd := handled d env event
  generalize (d.handle env event).2 = effects at hd ⊢
  generalize (d.handle env event).1 = d' at hd ⊢
  cases hd with
  | connected connId peer outbox =>
      have hc : c ≠ connId := by
        rintro rfl
        exact hne peer outbox rfl
      have hknows : (d.registry.register connId outbox).knows c = d.registry.knows c := by
        rw [ConnRegistry.knows_register, if_neg hc]
      exact ⟨fun hk => ⟨hknows.trans hk, rfl⟩, fun _ => Nat.zero_add _, le_refl _⟩
  | disconnected connId => exact (disconnected_changes connId).balanced.served
  | rejected cmd e hauth =>
      rw [hcommand]
      exact ((balanced_seqClosed c).refl d).reply cmd.connId _
  | replied cmd response hauth henters hchanges hsuccess =>
      rw [hcommand]
      exact ((balanced_seqClosed c).trans henters.balanced hchanges.balanced).reply cmd.connId _
  | unlock cmd k userName password hauth hrequest =>
      rw [hcommand]
      have hbalanced : Balanced c d (d.unlock env k userName password).effects _ :=
        unlock_balanced k userName password
      have hserved := hbalanced.reply cmd.connId
        (.authResult (d.unlockAttempt env k userName password).outcome)
      rwa [unlock_registry] at hserved
  | begun cmd hauth hrequest hctx hconn hbegin =>
      rw [hcommand]
      obtain ⟨-, rfl, rfl⟩ := ElevationManager.begin_eq_ok_iff.1 hbegin
      exact Opens.served hreach
        ⟨hauth, ⟨_, hrequest⟩, hctx, hconn, rfl, rfl, rfl, rfl, rfl⟩ rfl
  | suspended cmd response hrequest hresponse =>
      rw [hcommand]
      exact idleSuspend_balanced.reply cmd.connId response
  | ticked => exact onIdleTick_acts.balanced.served
  | reaped children => exact (reapChildren_acts children).balanced.served
  | signalled event hchanges => exact hchanges.balanced.served

end Daemon

/-! ## Whole runs -/

/-- The commands from `c` handled along a run. -/
def commandsFrom (c : ConnId) (tr : List (Transition System DaemonLabel)) : ℕ :=
  tr.countP fun x => x.label.isCommandFrom c

/-- The responses put into the outbox of `c` along a run. -/
def repliesTo (c : ConnId) (tr : List (Transition System DaemonLabel)) : ℕ :=
  responsesTo c (tr.flatMap fun x => x.label.effects)

theorem commandsFrom_snoc (c : ConnId) (tr : List (Transition System DaemonLabel))
    (x : Transition System DaemonLabel) :
    commandsFrom c (tr ++ [x]) = commandsFrom c tr + if x.label.isCommandFrom c then 1 else 0 := by
  simp [commandsFrom, List.countP_append, List.countP_cons]

theorem repliesTo_snoc (c : ConnId) (tr : List (Transition System DaemonLabel))
    (x : Transition System DaemonLabel) :
    repliesTo c (tr ++ [x]) = repliesTo c tr + responsesTo c x.label.effects := by
  simp [repliesTo, responsesTo_append]

namespace System

variable {sys₀ sys sys' : System} {tr : List (Transition System DaemonLabel)} {c : ConnId}

/-- An id that is fresh after an event was fresh before, and the event is not its doing. -/
theorem fresh_of_track {conns : ConnId → ConnStatus} {event : DaemonEvent}
    (hadmits : admits conns event) (h : track conns event c = .fresh) :
    conns c = .fresh ∧ (∀ peer outbox, event ≠ .ipc (.connected c peer outbox))
      ∧ ∀ env effects, (DaemonLabel.handled env event effects).isCommandFrom c = false := by
  match event with
  | .ipc (.connected connId peer outbox) =>
      have hc : c ≠ connId := by
        rintro rfl
        simp [track] at h
      simp only [track, Function.update_of_ne hc] at h
      refine ⟨h, fun peer' outbox' heq => hc ?_, fun _ _ => rfl⟩
      cases heq
      rfl
  | .ipc (.disconnected connId) =>
      have hc : c ≠ connId := by
        rintro rfl
        simp [track] at h
      simp only [track, Function.update_of_ne hc] at h
      exact ⟨h, by simp, fun _ _ => rfl⟩
  | .ipc (.command cmd) =>
      refine ⟨h, by simp, fun env effects => ?_⟩
      have hopen : conns cmd.connId = .open cmd.peer := hadmits
      have hne : cmd.connId ≠ c := by
        rintro rfl
        rw [show conns cmd.connId = .fresh from h] at hopen
        cases hopen
      simp [DaemonLabel.isCommandFrom, DaemonLabel.command, hne]
  | .idleTick => exact ⟨h, by simp, fun _ _ => rfl⟩
  | .signal event => exact ⟨h, by simp, fun _ _ => rfl⟩

/-- What is known of a connection id after a run: nothing happened to a fresh one, and a known one
    is in balance. -/
structure InBalance (c : ConnId) (tr : List (Transition System DaemonLabel)) (sys : System) :
    Prop where
  fresh : sys.conns c = .fresh →
    sys.daemon.registry.knows c = false ∧ commandsFrom c tr = 0 ∧ repliesTo c tr = 0
      ∧ sys.daemon.awaitedBy c = 0
  known : sys.daemon.registry.knows c = true →
    commandsFrom c tr = repliesTo c tr + sys.daemon.awaitedBy c

/-- An event that does not announce `c` keeps it in balance. -/
theorem InBalance.served {env : Env} {event : DaemonEvent} (h : InBalance c tr sys)
    (hreach : Daemon.Reachable sys.daemon) (hadmits : admits sys.conns event)
    (hne : ∀ peer outbox, event ≠ .ipc (.connected c peer outbox)) :
    InBalance c
      (tr ++ [⟨sys, .handled env event (sys.daemon.handle env event).2,
        { daemon := (sys.daemon.handle env event).1, conns := track sys.conns event }⟩])
      { daemon := (sys.daemon.handle env event).1, conns := track sys.conns event } := by
  have hserved : Daemon.Served c _ sys.daemon (sys.daemon.handle env event).2 _ :=
    Daemon.handle_served hreach event hne
  constructor
  · intro hfresh'
    obtain ⟨hfresh, -, hcommand⟩ := fresh_of_track hadmits hfresh'
    obtain ⟨hunknown, hcommands, hreplies, hawaited⟩ := h.fresh hfresh
    obtain ⟨hunknown', hnone⟩ := hserved.unknown hunknown
    have hle := hserved.awaited
    rw [hcommand, hawaited] at hle
    refine ⟨hunknown', ?_, ?_, Nat.le_zero.1 hle⟩
    · rw [commandsFrom_snoc, hcommands, hcommand]
      rfl
    · rw [repliesTo_snoc, hreplies, Nat.zero_add]
      exact hnone
  · intro hknown'
    have hknown : sys.daemon.registry.knows c = true := by
      by_contra hno
      have hunknown' := (hserved.unknown (by simpa using hno)).1
      rw [hunknown'] at hknown'
      cases hknown'
    have hbalance := h.known hknown
    have hevent := hserved.known hknown'
    rw [commandsFrom_snoc, repliesTo_snoc, hbalance]
    simp only [DaemonLabel.effects] at hevent ⊢
    omega

theorem Rehash.inBalance {d' : Daemon} (h : InBalance c tr sys)
    (hrehash : Daemon.Rehash sys.daemon d') :
    InBalance c (tr ++ [⟨sys, .rehash, { sys with daemon := d' }⟩]) { sys with daemon := d' } := by
  have hknows : d'.registry.knows c = sys.daemon.registry.knows c := hrehash.registry.knows_eq c
  have hawaited : d'.awaitedBy c = sys.daemon.awaitedBy c := hrehash.elevation.pending.countVal_eq _
  have hcommands : ∀ x : Transition System DaemonLabel, x.label = .rehash →
      commandsFrom c (tr ++ [x]) = commandsFrom c tr
        ∧ repliesTo c (tr ++ [x]) = repliesTo c tr := by
    intro x hx
    rw [commandsFrom_snoc, repliesTo_snoc, hx]
    exact ⟨rfl, rfl⟩
  obtain ⟨hc, hr⟩ := hcommands ⟨sys, .rehash, { sys with daemon := d' }⟩ rfl
  constructor
  · intro hfresh
    obtain ⟨hunknown, hcommands, hreplies, hnone⟩ := h.fresh hfresh
    exact ⟨hknows.trans hunknown, hc.trans hcommands, hr.trans hreplies, hawaited.trans hnone⟩
  · intro hknown
    rw [hc, hr]
    exact (h.known (hknows ▸ hknown)).trans (by rw [hawaited])

theorem inBalance (hinit : Initial sys₀) (hrun : Run Step sys₀ tr sys) (c : ConnId) :
    InBalance c tr sys := by
  refine hrun.history (P := fun tr sys => InBalance c tr sys) ?_ ?_
  · obtain ⟨_, _, _, _, _, _, heq⟩ := hinit.1.eq
    refine ⟨fun _ => ?_, fun hknown => ?_⟩
    · rw [heq]
      exact ⟨rfl, rfl, rfl, rfl⟩
    · rw [heq] at hknown
      simp [ConnRegistry.knows] at hknown
  · intro tr sys l sys' hrun hbalance hstep
    have hreach := reachable_daemon hinit hrun
    cases hstep with
    | rehash hr => exact Rehash.inBalance hbalance hr
    | handled env event hadmits =>
        by_cases hannounced : ∃ peer outbox, event = .ipc (.connected c peer outbox)
        · obtain ⟨peer, outbox, rfl⟩ := hannounced
          -- nothing can have happened to a connection before it is announced
          obtain ⟨-, hcommands, hreplies, hawaited⟩ := hbalance.fresh hadmits
          refine ⟨fun hfresh => ?_, fun _ => ?_⟩
          · simp [track] at hfresh
          · have hnone : Daemon.awaitedBy c
                (sys.daemon.handle env (.ipc (.connected c peer outbox))).1 = 0 := hawaited
            rw [commandsFrom_snoc, repliesTo_snoc, hcommands, hreplies, hnone]
            rfl
        · exact hbalance.served hreach hadmits fun peer outbox heq =>
            hannounced ⟨peer, outbox, heq⟩

/-- **Every request gets exactly one reply.** After any run, for a connection the registry knows:
    the commands handled from it are as many as the responses put into its outbox and the open
    prompts it asked for. -/
theorem commands_eq_replies_add_pending (hinit : Initial sys₀) (hrun : Run Step sys₀ tr sys)
    (hknown : sys.daemon.registry.knows c = true) :
    commandsFrom c tr = repliesTo c tr
      + sys.daemon.elevation.pending.countVal fun p => p.requesterConn = c :=
  (inBalance hinit hrun c).known hknown

section Example

/-- The requester has a prompt opened on Alice's session, and lists the sessions meanwhile. -/
private def promptEvents : List (Env × DaemonEvent) :=
  [demoConnect 7 1000,
    .ipc (.command (demoCommand 7 1000 (.createSession "alice" none none))),
    .ipc (.command (demoCommand 7 1000 (.registerCompositor 1))),
    demoConnect 9 900,
    .ipc (.command (demoCommand 9 900
      (.requestElevation 1 ⟨"editor", "save a file", .elevated, ""⟩))),
    .ipc (.command (demoCommand 9 900 .listSessions))].map fun event => (demoEnv 0, event)

/-- Two commands of the requester: one response sent, one prompt it waits for. -/
theorem requester_in_balance :
    2 = repliesTo 9 (transitions System.demo promptEvents)
      + (System.demo.replay promptEvents).daemon.elevation.pending.countVal
        fun p => p.requesterConn = 9 := by
  have hcommands : commandsFrom 9 (transitions System.demo promptEvents) = 2 := by decide
  rw [← hcommands]
  exact commands_eq_replies_add_pending System.demo_initial (run_replay (by decide)) (by decide)

end Example

end System

end MitosSession
