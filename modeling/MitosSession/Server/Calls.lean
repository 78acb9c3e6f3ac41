import MitosSession.Server.Outboxes

set_option autoImplicit false

/-! # A client that waits for each reply

`IpcClient::call` sends a request and waits for "the matching response", but nothing on the wire
says which request a response is for. `Server.calls_matched` says why the first response is the
one: a connection is never sent more responses than it has sent requests, so a peer that sends one
only after it got the response to every request before (`Server.Sequential`) can only get them in
step. Which responses come at once and which later (`RequestElevation`) makes no difference. -/

namespace MitosSession

/-- The message is a command from `c`. -/
def ManagerMessage.isCommandFrom (c : ConnId) : ManagerMessage → Bool
  | .command cmd => cmd.connId = c
  | _ => false

/-- The message is a response. -/
def Message.isResponse : Message → Bool
  | .response _ => true
  | .event _ => false

/-- The responses to a connection are counted in its outbox. -/
theorem responsesTo_eq (c : ConnId) (effects : List Effect) :
    responsesTo c effects = (queuedFor c effects).countP Message.isResponse := by
  unfold responsesTo queuedFor
  rw [List.countP_filterMap, List.countP_filterMap]
  refine List.countP_congr fun e _ => ?_
  cases e with
  | send conn message queued =>
      by_cases hc : conn = c <;> cases message <;> cases queued <;>
        simp [Effect.respondsTo, Effect.sent, Message.isResponse, hc]
  | _ => simp [Effect.respondsTo, Effect.sent]

namespace System

variable {sys₀ sys sys' : System} {tr : List (Transition System DaemonLabel)} {c : ConnId}

/-- **A connection is never sent more responses than it has sent requests**, whether the registry
    still knows it or not. -/
theorem repliesTo_le_commandsFrom (hinit : Initial sys₀) (hrun : Run Step sys₀ tr sys)
    (c : ConnId) : repliesTo c tr ≤ commandsFrom c tr := by
  refine hrun.history (P := fun tr _ => repliesTo c tr ≤ commandsFrom c tr) (le_refl _) ?_
  intro tr sys l sys' hrun ih hstep
  have hbalance := inBalance hinit (hrun.snoc hstep) c
  by_cases hknown' : sys'.daemon.registry.knows c = true
  · rw [hbalance.known hknown']
    exact Nat.le_add_right _ _
  · have hunknown' : sys'.daemon.registry.knows c = false := by simpa using hknown'
    have hnone : responsesTo c l.effects = 0 := by
      cases hstep with
      | rehash hr => rfl
      | handled env event hadmits =>
          have hreaches := Daemon.handle_reaches_after sys.daemon env event
          rw [DaemonLabel.effects, responsesTo_eq, hreaches.queuedFor_eq_nil hunknown']
          rfl
    rw [repliesTo_snoc, commandsFrom_snoc, hnone, Nat.add_zero]
    exact ih.trans (Nat.le_add_right _ _)

end System

namespace Server

/-- How many requests of `c` its reader has sent to the event loop. -/
def asked (c : ConnId) (tr : List (Transition Server ServerLabel)) : ℕ :=
  (said tr).countP (·.isCommandFrom c)

/-- How many requests of `c` the daemon has taken. -/
def handled (c : ConnId) (tr : List (Transition Server ServerLabel)) : ℕ :=
  (taken tr).countP (·.isCommandFrom c)

/-- How many responses have been put into the outbox of `c`. -/
def answered (c : ConnId) (tr : List (Transition Server ServerLabel)) : ℕ :=
  (queued c tr).countP Message.isResponse

/-- How many responses have been written to the peer of `c`. -/
def received (c : ConnId) (tr : List (Transition Server ServerLabel)) : ℕ :=
  (wrote c tr).countP Message.isResponse

/-- The step takes a request of `c` off the channel. -/
def takesFrom (c : ConnId) (l : ServerLabel) : Bool :=
  (takenBy l).any (·.isCommandFrom c)

/-- The step sends a request of `c` to the event loop. -/
def asksFrom (c : ConnId) (l : ServerLabel) : Bool :=
  (saidBy l).any (·.isCommandFrom c)

/-- The peer of `c` sends a request only once it has got the responses to all before. -/
def Sequential (c : ConnId) (tr : List (Transition Server ServerLabel)) : Prop :=
  ∀ tr₁ x tr₂, tr = tr₁ ++ x :: tr₂ → asksFrom c x.label = true → asked c tr₁ ≤ received c tr₁

variable {codec : Codec Request} {srv₀ srv srv' : Server}
  {tr : List (Transition Server ServerLabel)} {c : ConnId}

theorem asked_snoc (x : Transition Server ServerLabel) :
    asked c (tr ++ [x]) = asked c tr + if asksFrom c x.label then 1 else 0 := by
  rw [asked, said_snoc, List.countP_append]
  cases hx : saidBy x.label <;> simp [asked, asksFrom, hx, List.countP_singleton]

theorem handled_snoc (x : Transition Server ServerLabel) :
    handled c (tr ++ [x]) = handled c tr + if takesFrom c x.label then 1 else 0 := by
  rw [handled, taken_snoc, List.countP_append]
  cases hx : takenBy x.label <;> simp [handled, takesFrom, hx, List.countP_singleton]

theorem received_le_snoc (x : Transition Server ServerLabel) :
    received c tr ≤ received c (tr ++ [x]) := by
  rw [received, received, wrote_snoc, List.countP_append]
  exact Nat.le_add_right _ _

/-! ## The four counts -/

/-- What is written was in the outbox before. -/
theorem received_le_answered (hinit : Initial srv₀) (hrun : Run (Step codec) srv₀ tr srv)
    (hids : (spent tr).length ≤ u64Size) (c : ConnId) : received c tr ≤ answered c tr := by
  by_cases hc : c ∈ srv.handlers.map Handler.connId
  · obtain ⟨h, hh, rfl⟩ := List.mem_map.1 hc
    exact (holding hinit hrun hids h hh).begins.sublist.countP_le
  · rw [received, wrote_of_notMem hrun hc]
    exact Nat.zero_le _

/-- The requests the server's daemon has taken are those its steps handle. -/
theorem handled_eq (c : ConnId) (tr : List (Transition Server ServerLabel)) :
    handled c tr = (tr.filterMap daemonStep).countP fun x => x.label.isCommandFrom c := by
  induction tr using List.reverseRecOn with
  | nil => rfl
  | append_singleton rest x ih =>
      rw [handled_snoc, ih, List.filterMap_append, List.countP_append]
      congr 1
      obtain ⟨pre, l, post⟩ := x
      cases l with
      | accepted connId => rfl
      | thread connId act => rfl
      | daemon label =>
          cases label with
          | rehash => rfl
          | handled env event effects =>
              have hone : ([⟨pre, .daemon (.handled env event effects), post⟩].filterMap
                  daemonStep).countP (fun x => x.label.isCommandFrom c)
                = if (DaemonLabel.handled env event effects).isCommandFrom c then 1 else 0 :=
                List.countP_singleton ..
              rw [hone]
              match event with
              | .ipc (.command cmd) => rfl
              | .ipc (.connected connId peer outbox) => rfl
              | .ipc (.disconnected connId) => rfl
              | .idleTick => rfl
              | .signal event => rfl

section Trace

variable {trace : List (Transition System DaemonLabel)}

/-- The counts of the system that the server's steps come to. -/
theorem handled_eq_commandsFrom (hsteps : trace.map System.toDaemon = tr.filterMap daemonStep)
    (c : ConnId) : handled c tr = commandsFrom c trace := by
  rw [handled_eq, ← hsteps, List.countP_map]
  rfl

theorem answered_eq_repliesTo (hsteps : trace.map System.toDaemon = tr.filterMap daemonStep)
    (c : ConnId) : answered c tr = repliesTo c trace := by
  rw [answered, queued_eq, ← responsesTo_eq, ← hsteps, List.flatMap_map]
  rfl

end Trace

/-- The daemon answers no more than it has taken. -/
theorem answered_le_handled (hinit : Initial srv₀) (hrun : Run (Step codec) srv₀ tr srv)
    (hids : (spent tr).length ≤ u64Size) (c : ConnId) : answered c tr ≤ handled c tr := by
  obtain ⟨trace, conns, hfollows⟩ := exists_follows hinit hrun hids
  obtain ⟨d, hd, rfl⟩ := hinit
  rw [answered_eq_repliesTo hfollows.steps, handled_eq_commandsFrom hfollows.steps]
  exact System.repliesTo_le_commandsFrom ⟨hd, rfl⟩ hfollows.run c

/-- The daemon takes no more than was sent to it. -/
theorem handled_le_asked (hinit : Initial srv₀) (hrun : Run (Step codec) srv₀ tr srv)
    (hids : (spent tr).length ≤ u64Size) (c : ConnId) : handled c tr ≤ asked c tr := by
  rw [handled, asked, (orderly hinit hrun hids).queue, List.countP_append]
  exact Nat.le_add_right _ _

/-- A sequential peer is one request ahead at most. -/
theorem asked_le_received (hrun : Run (Step codec) srv₀ tr srv) (hseq : Sequential c tr) :
    asked c tr ≤ received c tr + 1 := by
  refine hrun.history_along (P := fun tr _ => asked c tr ≤ received c tr + 1)
    (G := fun tr x => asksFrom c x.label = true → asked c tr ≤ received c tr) (Nat.zero_le _)
    hseq ?_
  intro tr s l s' ih _ hgood
  have hmono : received c tr ≤ received c (tr ++ [⟨s, l, s'⟩]) := received_le_snoc _
  rw [asked_snoc]
  cases hasks : asksFrom c l with
  | true =>
      have hle := hgood hasks
      simp only [if_true]
      omega
  | false =>
      simp only [Bool.false_eq_true, if_false]
      omega

/-- The four counts, at the end of every beginning of the run. -/
theorem counts_of_beginning (hinit : Initial srv₀) (hrun : Run (Step codec) srv₀ tr srv)
    (hids : (spent tr).length ≤ u64Size) (hseq : Sequential c tr)
    {tr₁ tr₂ : List (Transition Server ServerLabel)} (htr : tr = tr₁ ++ tr₂) :
    received c tr₁ ≤ answered c tr₁ ∧ answered c tr₁ ≤ handled c tr₁
      ∧ handled c tr₁ ≤ asked c tr₁ ∧ asked c tr₁ ≤ received c tr₁ + 1 := by
  obtain ⟨srv₁, hrun₁⟩ := hrun.take htr
  have hids₁ : (spent tr₁).length ≤ u64Size := by
    refine le_trans ?_ hids
    rw [htr, spent, spent, List.filterMap_append, List.length_append]
    exact Nat.le_add_right _ _
  have hseq₁ : Sequential c tr₁ := by
    intro l₁ x l₂ hl
    exact hseq l₁ x (l₂ ++ tr₂) (by rw [htr, hl, List.append_assoc, List.cons_append])
  exact ⟨received_le_answered hinit hrun₁ hids₁ c, answered_le_handled hinit hrun₁ hids₁ c,
    handled_le_asked hinit hrun₁ hids₁ c, asked_le_received hrun₁ hseq₁⟩

/-- When the daemon takes a request of a sequential peer, it has answered all it took before. -/
theorem answered_of_takesFrom (hinit : Initial srv₀) (hrun : Run (Step codec) srv₀ tr srv)
    (hids : (spent tr).length ≤ u64Size) (hseq : Sequential c tr)
    {tr₁ tr₂ : List (Transition Server ServerLabel)} {x : Transition Server ServerLabel}
    (htr : tr = tr₁ ++ x :: tr₂) (htakes : takesFrom c x.label = true) :
    answered c tr₁ = handled c tr₁ := by
  obtain ⟨hreceived, hanswered, -, hasked⟩ := counts_of_beginning hinit hrun hids hseq htr
  -- the request was asked before it is taken
  have htr' : tr = (tr₁ ++ [x]) ++ tr₂ := by rw [htr, List.append_assoc]; rfl
  obtain ⟨-, -, hhandled', -⟩ := counts_of_beginning hinit hrun hids hseq htr'
  have hsilent : asksFrom c x.label = false := by
    obtain ⟨pre, l, post⟩ := x
    cases l with
    | daemon label => rfl
    | _ => cases htakes
  rw [handled_snoc, asked_snoc, htakes, hsilent] at hhandled'
  simp only [if_true, Bool.false_eq_true, if_false] at hhandled'
  omega

/-- **A client that waits for each reply gets its own.** Take a connection whose peer sends a
    request only once it got the responses to all before it. Whenever the daemon takes a request of
    it, it has put exactly as many responses into its outbox as it has taken requests before; and
    at any time it has answered all the requests it has taken, or all but the last. So the `k`-th
    response is put into the outbox after the `k`-th request was taken and before the next one
    is. -/
theorem calls_matched (hinit : Initial srv₀) (hrun : Run (Step codec) srv₀ tr srv)
    (hids : (spent tr).length ≤ u64Size) (hseq : Sequential c tr) :
    (∀ tr₁ x tr₂, tr = tr₁ ++ x :: tr₂ → takesFrom c x.label = true →
        answered c tr₁ = handled c tr₁)
      ∧ ∀ tr₁ tr₂, tr = tr₁ ++ tr₂ →
        answered c tr₁ ≤ handled c tr₁ ∧ handled c tr₁ ≤ answered c tr₁ + 1 := by
  refine ⟨fun tr₁ x tr₂ => answered_of_takesFrom hinit hrun hids hseq, fun tr₁ tr₂ htr => ?_⟩
  obtain ⟨hreceived, hanswered, hhandled, hasked⟩ :=
    counts_of_beginning hinit hrun hids hseq htr
  exact ⟨hanswered, by omega⟩

/-- One request has no other to wait for. -/
theorem sequential_of_le_one (h : asked c tr ≤ 1) : Sequential c tr := by
  intro tr₁ x tr₂ htr hasks
  have hsplit : asked c tr = asked c (tr₁ ++ [x]) + asked c tr₂ := by
    rw [htr, ← List.singleton_append, ← List.append_assoc]
    simp only [asked, said, List.filterMap_append, List.countP_append]
  rw [asked_snoc, hasks, if_pos rfl] at hsplit
  omega

/-- The visitor's report is taken, and answered before anything else is. -/
theorem visit_matched :
    ∃ tr : List (Transition Server ServerLabel), handled 1 tr = 1
      ∧ answered 1 tr ≤ handled 1 tr ∧ handled 1 tr ≤ answered 1 tr + 1 := by
  obtain ⟨stream, srv, tr, -, -, hrun, hspent, htaken, hqueue, -⟩ := visit
  have hinit : Initial { daemon := Daemon.demo } := ⟨Daemon.demo, Daemon.demo_initial, rfl⟩
  have hids : (spent tr).length ≤ u64Size := by
    rw [hspent]
    decide
  have hasked : asked 1 tr ≤ 1 := by
    rw [asked, (orderly hinit hrun hids).queue, htaken, hqueue]
    decide
  refine ⟨tr, ?_, (calls_matched hinit hrun hids (sequential_of_le_one hasked)).2 tr []
    (List.append_nil tr).symm⟩
  rw [handled, htaken]
  decide

end Server

end MitosSession
