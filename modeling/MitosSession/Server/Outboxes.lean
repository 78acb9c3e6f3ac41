import MitosSession.Server.Refinement
import MitosSession.Daemon.Delivery
import MitosSession.Daemon.Replies

set_option autoImplicit false

/-! # What the peers see of the server

`Server.outbox_in_order`: the messages a connection's writer writes are those the daemon put into
its outbox, in the same order; as long as the writer has not ended, what is not written yet is in
its hands or in the outbox. A new connection starts with nothing, since no message can go to an id
the daemon has not been told of (`Daemon.handle_reaches`). -/

namespace MitosSession

section QueuedFor

variable {c : ConnId} {registry : ConnRegistry} {effects effects' : List Effect}

theorem queuedFor_append :
    queuedFor c (effects ++ effects') = queuedFor c effects ++ queuedFor c effects' := by
  simp [queuedFor, List.filterMap_append]

theorem mem_queuedFor {message : Message} :
    message ∈ queuedFor c effects ↔ Effect.send c message true ∈ effects := by
  simp only [queuedFor, List.mem_filterMap]
  constructor
  · rintro ⟨sent, hsent, heq⟩
    split at heq
    · rename_i hfor
      obtain ⟨conn, message', queued⟩ := sent
      obtain ⟨rfl, hqueued⟩ := hfor
      obtain rfl : queued = true := hqueued
      obtain rfl := Option.some.inj heq
      exact Effect.mem_sent.1 (List.mem_filterMap.2 hsent)
    · cases heq
  · intro hmem
    exact ⟨(c, message, true), List.mem_filterMap.1 (Effect.mem_sent.2 hmem), by simp⟩

/-- Nothing gets into the outbox of a connection the registry does not know. -/
theorem Reaches.queuedFor_eq_nil (h : Reaches registry effects) (hc : registry.knows c = false) :
    queuedFor c effects = [] := by
  refine List.eq_nil_iff_forall_not_mem.2 fun message hmem => ?_
  have hknows := h c message (mem_queuedFor.1 hmem)
  rw [hc] at hknows
  cases hknows

end QueuedFor

/-- A connection that has not been announced has been sent nothing. -/
theorem System.fresh_unqueued {sys₀ sys : System} {tr : List (Transition System DaemonLabel)}
    (hinit : Initial sys₀) (hrun : Run Step sys₀ tr sys) {c : ConnId} (h : sys.conns c = .fresh) :
    queuedFor c (tr.flatMap fun x => x.label.effects) = [] := by
  refine hrun.history (P := fun tr sys => sys.conns c = .fresh →
    queuedFor c (tr.flatMap fun x => x.label.effects) = []) ?_ ?_ h
  · intro _
    rfl
  · intro tr sys l sys' hrun ih hstep hfresh'
    rw [List.flatMap_append, queuedFor_append, List.flatMap_singleton]
    cases hstep with
    | rehash hr => rw [ih hfresh']; rfl
    | handled env event hadmits =>
        obtain ⟨hfresh, -, -⟩ := fresh_of_track hadmits hfresh'
        have hunknown := ((inBalance hinit hrun c).fresh hfresh).1
        rw [ih hfresh, List.nil_append]
        exact (Daemon.handle_reaches sys.daemon env event).queuedFor_eq_nil hunknown

namespace Handler

/-- The message the writer is writing. -/
def inFlight (h : Handler) : List Message :=
  match h.writer with
  | .writing message => [message]
  | _ => []

/-- What was put into the outbox of a connection has been written, in order, but for what the
    writer still has; or the writer has ended. -/
structure Holds (h : Handler) (wrote queued : List Message) : Prop where
  before : h.reader = .announcing ∨ h.reader = .spawning → h.writer = .notSpawned
  running : h.writer ≠ .ended → wrote ++ h.inFlight ++ h.outbox = queued
  begins : wrote <+: queued

end Handler

/-- The message written to the socket, if one was. -/
def HandlerAct.toPeer : HandlerAct → Option Message
  | .wrote message => some message
  | _ => none

namespace Handler

variable {codec : Codec Request} {h h' : Handler} {act : HandlerAct} {senderAlive : Bool}
  {wrote queued : List Message}

/-- A step of the reader. -/
theorem Holds.reader (hholds : Holds h wrote queued) (hwriter : h'.writer = h.writer)
    (houtbox : h'.outbox = h.outbox)
    (hbefore : h'.reader = .announcing ∨ h'.reader = .spawning → h'.writer = .notSpawned) :
    Holds h' (wrote ++ []) queued where
  before := hbefore
  running hrunning := by
    rw [hwriter] at hrunning
    rw [List.append_nil, houtbox, ← hholds.running hrunning]
    simp only [inFlight, hwriter]
  begins := by
    rw [List.append_nil]
    exact hholds.begins

theorem Step.holds (hstep : Step codec senderAlive h act h') (hholds : Holds h wrote queued) :
    Holds h' (wrote ++ act.toPeer.toList) queued := by
  have hbegins : wrote ++ [] <+: queued := by
    rw [List.append_nil]
    exact hholds.begins
  -- once the writer runs, the reader is past spawning it
  have hpast : h.writer ≠ .notSpawned → ¬ (h.reader = .announcing ∨ h.reader = .spawning) :=
    mt hholds.before
  cases hstep with
  | announce hreader => exact hholds.reader rfl rfl fun _ => hholds.before (Or.inl hreader)
  | spawn hreader =>
      have hnone := hholds.before (Or.inr hreader)
      refine ⟨by simp, fun _ => ?_, hbegins⟩
      have hrunning := hholds.running (by rw [hnone]; exact Writer.noConfusion)
      simpa [HandlerAct.toPeer, inFlight, hnone] using hrunning
  | request hreader hread => exact hholds.reader rfl rfl hholds.before
  | hangUp hreader hread => exact hholds.reader rfl rfl (by simp)
  | dropSender hreader => exact hholds.reader rfl rfl (by simp)
  | join hreader hwriter => exact hholds.reader rfl rfl (by simp)
  | report hreader => exact hholds.reader rfl rfl (by simp)
  | receive hwriter houtbox =>
      refine ⟨fun hreader => absurd hreader (hpast (by simp [hwriter])), fun _ => ?_, hbegins⟩
      have hrunning := hholds.running (by simp [hwriter])
      simpa [HandlerAct.toPeer, inFlight, hwriter, houtbox] using hrunning
  | exhausted hwriter houtbox hsenders =>
      exact ⟨fun hreader => absurd hreader (hpast (by simp [hwriter])),
        fun hno => absurd rfl hno, hbegins⟩
  | @written message hwriter =>
      have hrunning := hholds.running (by simp [hwriter])
      simp only [inFlight, hwriter] at hrunning
      refine ⟨fun hreader => absurd hreader (hpast (by simp [hwriter])), fun _ => ?_, ?_⟩
      · simpa [HandlerAct.toPeer, inFlight] using hrunning
      · exact ⟨h.outbox, hrunning⟩
  | writeFailed hwriter =>
      exact ⟨fun hreader => absurd hreader (hpast (by simp [hwriter])),
        fun hno => absurd rfl hno, hbegins⟩

theorem deliver_deliver (h : Handler) (effects effects' : List Effect) :
    (h.deliver effects).deliver effects' = h.deliver (effects ++ effects') := by
  by_cases hwriter : h.writer = .ended
  · simp [deliver, hwriter]
  · simp [deliver, hwriter, queuedFor_append]

theorem Holds.deliver (hholds : Holds h wrote queued) (effects : List Effect) :
    Holds (h.deliver effects) wrote (queued ++ queuedFor h.connId effects) where
  before := hholds.before
  running hrunning := by
    have hwriter : h.writer ≠ .ended := hrunning
    have hall := hholds.running hwriter
    simp only [Handler.deliver, if_neg hwriter, ← hall, List.append_assoc]
    rfl
  begins := hholds.begins.trans (List.prefix_append _ _)

end Handler

namespace Server

/-- What the step puts into the outbox of `c`. -/
def queuedBy (c : ConnId) (l : ServerLabel) : List Message :=
  match l with
  | .daemon label => queuedFor c label.effects
  | _ => []

/-- The message the step writes to the peer of `c`, if it writes one. -/
def wroteBy (c : ConnId) (l : ServerLabel) : Option Message :=
  match l with
  | .thread connId act => if connId = c then act.toPeer else none
  | _ => none

/-- Everything put into the outbox of `c` along a run. -/
def queued (c : ConnId) (tr : List (Transition Server ServerLabel)) : List Message :=
  tr.flatMap fun x => queuedBy c x.label

/-- Everything written to the peer of `c` along a run. -/
def wrote (c : ConnId) (tr : List (Transition Server ServerLabel)) : List Message :=
  tr.filterMap fun x => wroteBy c x.label

variable {codec : Codec Request} {srv₀ srv srv' : Server}
  {tr : List (Transition Server ServerLabel)} {c : ConnId}

theorem queued_snoc (x : Transition Server ServerLabel) :
    queued c (tr ++ [x]) = queued c tr ++ queuedBy c x.label := by
  simp [queued, List.flatMap_append]

theorem wrote_snoc (x : Transition Server ServerLabel) :
    wrote c (tr ++ [x]) = wrote c tr ++ (wroteBy c x.label).toList := by
  cases hx : wroteBy c x.label <;> simp [wrote, List.filterMap_append, hx]

/-- What the steps of the server put into an outbox is what those of its daemon do. -/
theorem queued_eq (c : ConnId) (tr : List (Transition Server ServerLabel)) :
    queued c tr = queuedFor c ((tr.filterMap daemonStep).flatMap fun x => x.label.effects) := by
  induction tr with
  | nil => rfl
  | cons x rest ih =>
      have hcons : queued c (x :: rest) = queuedBy c x.label ++ queued c rest := rfl
      obtain ⟨pre, l, post⟩ := x
      cases l with
      | accepted connId => rw [hcons, ih]; rfl
      | thread connId act => rw [hcons, ih]; rfl
      | daemon label =>
          have hstep : daemonStep ⟨pre, .daemon label, post⟩
              = some ⟨pre.daemon, label, post.daemon⟩ := rfl
          rw [hcons, ih, List.filterMap_cons_some hstep, List.flatMap_cons, queuedFor_append]
          rfl

/-- An id that has not been handed out has been sent nothing. -/
theorem queued_of_notMem_spent (hinit : Initial srv₀) (hrun : Run (Step codec) srv₀ tr srv)
    (hids : (spent tr).length ≤ u64Size) (hc : c ∉ spent tr) : queued c tr = [] := by
  have horderly := orderly hinit hrun hids
  obtain ⟨trace, conns, hfollows⟩ := exists_follows hinit hrun hids
  obtain ⟨d, hd, rfl⟩ := hinit
  have hsilent : lettersOf ManagerMessage.connId c (said tr) = [] :=
    horderly.strangers c fun hmem => by
      obtain ⟨h, hh, rfl⟩ := List.mem_map.1 hmem
      exact hc (horderly.known h hh)
  rw [horderly.queue, lettersOf_append, List.append_eq_nil_iff] at hsilent
  have hfresh : conns c = .fresh := by
    have hc := foldlM_together_iff.1 hfollows.conns c
    rw [hsilent.1] at hc
    exact (Option.some.inj hc).symm
  have hnone := System.fresh_unqueued ⟨hd, rfl⟩ hfollows.run hfresh
  rw [queued_eq, ← hfollows.steps, List.flatMap_map]
  exact hnone

/-- Nothing is written to an id no connection has. -/
theorem wrote_of_notMem (hrun : Run (Step codec) srv₀ tr srv)
    (hc : c ∉ srv.handlers.map Handler.connId) : wrote c tr = [] := by
  refine hrun.history (P := fun tr srv => c ∉ srv.handlers.map Handler.connId → wrote c tr = [])
    (fun _ => rfl) ?_ hc
  intro tr srv l srv' hrun ih hstep hc
  rw [wrote_snoc]
  have hids : ∀ effects, (srv.handlers.map (·.deliver effects)).map Handler.connId
      = srv.handlers.map Handler.connId := fun effects => List.map_map ..
  cases hstep with
  | accept peer stream =>
      rw [List.map_append, List.mem_append, not_or] at hc
      rw [ih hc.1]
      rfl
  | @thread i h h' act hget hstep =>
      have hset : (srv.handlers.set i h').map Handler.connId = srv.handlers.map Handler.connId :=
        map_set_eq_self hget hstep.frame.1
      have hne : h.connId ≠ c := by
        rintro rfl
        exact hc (hset ▸ List.mem_map_of_mem (List.mem_of_getElem? hget))
      rw [ih (hset ▸ hc)]
      simp [wroteBy, hne]
  | reject => rw [ih hc]; rfl
  | take env hqueue => rw [ih (hids _ ▸ hc)]; rfl
  | idleTick env => rw [ih (hids _ ▸ hc)]; rfl
  | signal env event => rw [ih (hids _ ▸ hc)]; rfl
  | rehash hr => rw [ih hc]; rfl

theorem wrote_of_notMem_spent (hinit : Initial srv₀) (hrun : Run (Step codec) srv₀ tr srv)
    (hids : (spent tr).length ≤ u64Size) (hc : c ∉ spent tr) : wrote c tr = [] :=
  wrote_of_notMem hrun fun hmem => by
    obtain ⟨h, hh, rfl⟩ := List.mem_map.1 hmem
    exact hc ((orderly hinit hrun hids).known h hh)

/-- What is so of all connections after every history. -/
def Holding (tr : List (Transition Server ServerLabel)) (srv : Server) : Prop :=
  ∀ h ∈ srv.handlers, h.Holds (wrote h.connId tr) (queued h.connId tr)

/-- A step that neither sends to a connection nor writes to one. -/
theorem Holding.quiet {x : Transition Server ServerLabel} (h : Holding tr srv)
    (hwrote : ∀ c, wroteBy c x.label = none) (hqueued : ∀ c, queuedBy c x.label = [])
    (hhandlers : ∀ g ∈ srv'.handlers, g ∈ srv.handlers
      ∨ g.Holds (wrote g.connId tr) (queued g.connId tr)) : Holding (tr ++ [x]) srv' := by
  intro g hg
  rw [wrote_snoc, hwrote, queued_snoc, hqueued, Option.toList_none, List.append_nil,
    List.append_nil]
  exact (hhandlers g hg).elim (h g) id

/-- A step of a connection's threads. -/
theorem Holding.thread {i : ℕ} {g g' : Handler} {act : HandlerAct} {senderAlive : Bool}
    {x : Transition Server ServerLabel} {queue : List ManagerMessage} (h : Holding tr srv)
    (hids : (srv.handlers.map Handler.connId).Nodup) (hget : srv.handlers[i]? = some g)
    (hstep : g.Step codec senderAlive act g') (hx : x.label = .thread g.connId act) :
    Holding (tr ++ [x]) { srv with handlers := srv.handlers.set i g', queue } := by
  obtain ⟨hconnId, -⟩ := hstep.frame
  intro k hk
  have hqueued : queuedBy k.connId x.label = [] := by rw [hx]; rfl
  rw [wrote_snoc, queued_snoc, hqueued, List.append_nil]
  rcases mem_set_of_nodup hids hget hk with rfl | ⟨hmem, hne⟩
  · have hwrote : wroteBy k.connId x.label = act.toPeer := by
      rw [hx, wroteBy, if_pos hconnId.symm]
    rw [hwrote, hconnId]
    exact hstep.holds (h g (List.mem_of_getElem? hget))
  · have hwrote : wroteBy k.connId x.label = none := by
      rw [hx, wroteBy, if_neg (Ne.symm hne)]
    rw [hwrote, Option.toList_none, List.append_nil]
    exact h k hmem

/-- A step of the daemon: what it sends goes into the outboxes. -/
theorem Holding.deliver {label : DaemonLabel} {post : Server} {daemon : Daemon}
    {queue : List ManagerMessage} (h : Holding tr srv) :
    Holding (tr ++ [⟨srv, .daemon label, post⟩])
      { srv with daemon, queue, handlers := srv.handlers.map (·.deliver label.effects) } := by
  intro k hk
  obtain ⟨g, hg, rfl⟩ := List.mem_map.1 hk
  have hwrote : wroteBy g.connId (.daemon label) = none := rfl
  change (g.deliver label.effects).Holds (wrote g.connId _) (queued g.connId _)
  rw [wrote_snoc, queued_snoc, hwrote, Option.toList_none, List.append_nil]
  exact (h g hg).deliver label.effects

theorem holding (hinit : Initial srv₀) (hrun : Run (Step codec) srv₀ tr srv)
    (hids : (spent tr).length ≤ u64Size) : Holding tr srv := by
  refine hrun.history (P := fun tr srv => (spent tr).length ≤ u64Size → Holding tr srv) ?_ ?_ hids
  · rintro -
    obtain ⟨d, -, rfl⟩ := hinit
    simp [Holding]
  · intro tr srv l srv' hrun ih hstep hids
    rw [spent_snoc, List.length_append] at hids
    have hle := (Nat.le_add_right _ _).trans hids
    have h := ih hle
    cases hstep with
    | accept peer stream =>
        refine h.quiet (fun _ => rfl) (fun _ => rfl) fun g hg => ?_
        rcases List.mem_append.1 hg with hold | hnewest
        · exact Or.inl hold
        · obtain rfl := List.mem_singleton.1 hnewest
          have hlt : (spent tr).length < u64Size := hids
          have hnew := next_notMem_spent hinit hrun hlt
          refine Or.inr ⟨fun _ => rfl, fun _ => ?_, ?_⟩
          · rw [wrote_of_notMem_spent hinit hrun hle hnew,
              queued_of_notMem_spent hinit hrun hle hnew]
            rfl
          · rw [wrote_of_notMem_spent hinit hrun hle hnew]
            exact List.nil_prefix
    | reject => exact h.quiet (fun _ => rfl) (fun _ => rfl) fun g hg => Or.inl hg
    | thread hget hstep => exact h.thread (orderly hinit hrun hle).ids hget hstep rfl
    | take env hqueue => exact h.deliver
    | idleTick env => exact h.deliver
    | signal env event => exact h.deliver
    | rehash hr => exact h.quiet (fun _ => rfl) (fun _ => rfl) fun g hg => Or.inl hg

/-- **Nothing is lost, repeated or overtaken on the way to the peers.** What the writer of a
    connection has written is, in order, a beginning of what the daemon has put into its outbox;
    unless the writer has ended, the rest is the message it is writing and the outbox. -/
theorem outbox_in_order (hinit : Initial srv₀) (hrun : Run (Step codec) srv₀ tr srv)
    (hids : (spent tr).length ≤ u64Size) :
    ∀ h ∈ srv.handlers, wrote h.connId tr <+: queued h.connId tr
      ∧ (h.writer ≠ .ended →
        wrote h.connId tr ++ h.inFlight ++ h.outbox = queued h.connId tr) := by
  intro h hh
  have hholds := holding hinit hrun hids h hh
  exact ⟨hholds.begins, hholds.running⟩

/-- The visitor gets the answer to its report. -/
theorem visit_answered :
    ∃ tr : List (Transition Server ServerLabel), .response .ok ∈ wrote 1 tr
      ∧ wrote 1 tr ++ [] ++ [] = queued 1 tr := by
  obtain ⟨stream, ⟨daemon, nextConnId, handlers, queue⟩, tr, -, -, hrun, hspent, -, -, -,
    hhandlers, -⟩ := visit
  obtain rfl : handlers = _ := hhandlers
  have hreceived := hrun.snoc (Step.thread _ (i := 0) rfl (Handler.Step.receive _ rfl rfl))
  have hwritten := hreceived.snoc (Step.thread _ (i := 0) rfl (Handler.Step.written _ rfl))
  have hordered := outbox_in_order ⟨Daemon.demo, Daemon.demo_initial, rfl⟩ hwritten
    (by rw [spent_snoc, spent_snoc, hspent]; exact Nat.le_of_ble_eq_true rfl) _
    (List.mem_singleton_self _)
  refine ⟨_, ?_, hordered.2 Writer.noConfusion⟩
  rw [wrote_snoc]
  exact List.mem_append_right _ (List.mem_singleton_self _)

end Server

end MitosSession
