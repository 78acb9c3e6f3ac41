import MitosSession.Daemon.Run

set_option autoImplicit false

/-! # One connection and its two threads

`ipc/server.rs::handle_connection`: the reader thread and the writer thread of one connection,
next to the daemon, with the two channels between them. A channel's receive loop ends when every
sender is gone; the senders of the outbox are the reader's own, the clone inside a `Connected`
message the daemon has not taken yet, and the clone in the daemon's registry.

The reader drops its own sender, joins the writer and only then reports `Disconnected`; the
registry drops its clone when it hears `Disconnected`. So a writer that waits for messages waits
for the registry, and the registry waits for the writer. `teardown_not_stuck_iff` says exactly
when the threads of a connection that hung up can still move, and when they can get to the end on
their own.

Left out are the two early returns before the channel exists, and a daemon that has stopped. -/

namespace MitosSession

/-- Where the reader thread is in `handle_connection`. -/
inductive Reader where
  /-- The channel is made; `Connected` is to be sent. -/
  | announcing
  /-- The writer thread is to be spawned. -/
  | spawning
  /-- In the `read_message` loop. -/
  | reading
  /-- Out of the loop; `drop(out_tx)` comes next. -/
  | leaving
  /-- In `writer_handle.join()`. -/
  | joining
  /-- `Disconnected` is to be sent. -/
  | reporting
  /-- `Disconnected` has been sent. -/
  | done
deriving DecidableEq

/-- The reader has left its loop. -/
def Reader.left : Reader → Bool
  | .leaving | .joining | .reporting | .done => true
  | _ => false

/-- The reader still owns `out_tx`. -/
def Reader.ownsSender : Reader → Bool
  | .announcing | .spawning | .reading | .leaving => true
  | _ => false

/-- Where the writer thread is. -/
inductive Writer where
  | notSpawned
  /-- In the `recv` of `for msg in out_rx`. -/
  | receiving
  | writing (message : Message)
  | ended
deriving DecidableEq

/-- The connection `conn`, the daemon, and what is in the channels between them: the messages the
    daemon has not taken yet, and the messages the writer has not taken yet. -/
structure Connection where
  daemon : Daemon
  reader : Reader := .announcing
  writer : Writer := .notSpawned
  queue : List ManagerMessage := []
  outbox : List Message := []

/-- The messages some effects put into the outbox of `conn`. -/
def queuedFor (conn : ConnId) (effects : List Effect) : List Message :=
  (effects.filterMap Effect.sent).filterMap fun sent =>
    if sent.1 = conn ∧ sent.2.2 = true then some sent.2.1 else none

/-- The event is a message of `conn`. -/
def DaemonEvent.isFrom (conn : ConnId) : DaemonEvent → Bool
  | .ipc (.connected connId _ _) => connId = conn
  | .ipc (.command cmd) => cmd.connId = conn
  | .ipc (.disconnected connId) => connId = conn
  | _ => false

namespace Connection

/-- Whose step it is. -/
inductive Party where
  | reader
  | writer
  | daemon
deriving DecidableEq

/-- A sender of the outbox is alive. -/
def senderAlive (conn : ConnId) (st : Connection) : Bool :=
  st.reader.ownsSender
    || st.queue.any (fun message => match message with
      | .connected _ _ _ => true
      | _ => false)
    || st.daemon.registry.knows conn

/-- The daemon handles an event; what it sends to `conn` is lost once the writer has ended. -/
def handles (conn : ConnId) (st : Connection) (env : Env) (event : DaemonEvent) : Connection :=
  { st with
    daemon := (st.daemon.handle env event).1
    outbox :=
      if st.writer = .ended then st.outbox
      else st.outbox ++ queuedFor conn (st.daemon.handle env event).2 }

/-- One step of one of the three. -/
inductive Step (conn : ConnId) (peer : PeerCred) : Connection → Party → Connection → Prop
  | announce (st : Connection) (h : st.reader = .announcing) :
      Step conn peer st .reader
        { st with reader := .spawning, queue := st.queue ++ [.connected conn peer {}] }
  | spawn (st : Connection) (h : st.reader = .spawning) :
      Step conn peer st .reader { st with reader := .reading, writer := .receiving }
  | request (st : Connection) (request : Request) (h : st.reader = .reading) :
      Step conn peer st .reader
        { st with queue := st.queue ++ [.command { connId := conn, peer, request }] }
  /-- The peer hung up, or sent something malformed. -/
  | hangUp (st : Connection) (h : st.reader = .reading) :
      Step conn peer st .reader { st with reader := .leaving }
  | dropSender (st : Connection) (h : st.reader = .leaving) :
      Step conn peer st .reader { st with reader := .joining }
  | join (st : Connection) (h : st.reader = .joining) (hended : st.writer = .ended) :
      Step conn peer st .reader { st with reader := .reporting }
  | report (st : Connection) (h : st.reader = .reporting) :
      Step conn peer st .reader
        { st with reader := .done, queue := st.queue ++ [.disconnected conn] }
  | receive (st : Connection) {message : Message} {rest : List Message}
      (h : st.writer = .receiving) (houtbox : st.outbox = message :: rest) :
      Step conn peer st .writer { st with writer := .writing message, outbox := rest }
  | exhausted (st : Connection) (h : st.writer = .receiving) (houtbox : st.outbox = [])
      (hsenders : st.senderAlive conn = false) :
      Step conn peer st .writer { st with writer := .ended }
  | written (st : Connection) {message : Message} (h : st.writer = .writing message) :
      Step conn peer st .writer { st with writer := .receiving }
  | writeFailed (st : Connection) {message : Message} (h : st.writer = .writing message) :
      Step conn peer st .writer { st with writer := .ended }
  | take (st : Connection) (env : Env) {message : ManagerMessage} {rest : List ManagerMessage}
      (h : st.queue = message :: rest) :
      Step conn peer st .daemon ({ st with queue := rest }.handles conn env (.ipc message))
  | other (st : Connection) (env : Env) (event : DaemonEvent) (h : event.isFrom conn = false) :
      Step conn peer st .daemon (st.handles conn env event)
  | rehash (st : Connection) {d' : Daemon} (h : Daemon.Rehash st.daemon d') :
      Step conn peer st .daemon { st with daemon := d' }

/-- A connection just accepted, under an id no message has named yet. -/
def Initial (conn : ConnId) (st : Connection) : Prop :=
  ∃ d, Daemon.Reachable d ∧ d.registry.knows conn = false ∧ st = { daemon := d }

def Reachable (conn : ConnId) (peer : PeerCred) (st : Connection) : Prop :=
  ∃ st₀ tr, Initial conn st₀ ∧ Run (Step conn peer) st₀ tr st

theorem Reachable.step {conn : ConnId} {peer : PeerCred} {st st' : Connection} {party : Party}
    (h : Reachable conn peer st) (hstep : Step conn peer st party st') :
    Reachable conn peer st' := by
  obtain ⟨st₀, tr, h₀, hrun⟩ := h
  exact ⟨st₀, _, h₀, hrun.snoc hstep⟩

/-- The party can take a step. -/
def Enabled (conn : ConnId) (peer : PeerCred) (party : Party) (st : Connection) : Prop :=
  ∃ st', Step conn peer st party st'

/-- `Disconnected` has been sent, or one of the connection's two threads can move. -/
def GetsOn (conn : ConnId) (peer : PeerCred) (st : Connection) : Prop :=
  st.reader = .done ∨ Enabled conn peer .reader st ∨ Enabled conn peer .writer st

section Teardown

variable {conn : ConnId} {peer : PeerCred} {st st' : Connection} {party : Party}

/-! ## The writer runs while the connection is served -/

/-- From the loop on, the writer thread exists. -/
def WriterSpawned (st : Connection) : Prop :=
  st.writer = .notSpawned → st.reader = .announcing ∨ st.reader = .spawning

theorem Step.writerSpawned (hstep : Step conn peer st party st') (h : WriterSpawned st) :
    WriterSpawned st' := by
  intro hnone
  cases hstep with
  | announce hreader => exact Or.inr rfl
  | spawn hreader => cases hnone
  | request request hreader => exact h hnone
  | hangUp hreader =>
      rcases h hnone with hbefore | hbefore <;> rw [hreader] at hbefore <;> cases hbefore
  | dropSender hreader =>
      rcases h hnone with hbefore | hbefore <;> rw [hreader] at hbefore <;> cases hbefore
  | join hreader hended =>
      rw [hended] at hnone
      cases hnone
  | report hreader =>
      rcases h hnone with hbefore | hbefore <;> rw [hreader] at hbefore <;> cases hbefore
  | receive hwriter houtbox => cases hnone
  | exhausted hwriter houtbox hsenders => cases hnone
  | written hwriter => cases hnone
  | writeFailed hwriter => cases hnone
  | take env hqueue => exact h hnone
  | other env event hother => exact h hnone
  | rehash hr => exact h hnone

theorem Reachable.writerSpawned (h : Reachable conn peer st) : WriterSpawned st := by
  obtain ⟨st₀, tr, ⟨d, -, -, rfl⟩, hrun⟩ := h
  exact hrun.invariant (fun _ => Or.inl rfl) fun _ _ _ hI hstep => hstep.writerSpawned hI

theorem Reachable.spawned (h : Reachable conn peer st) (hleft : st.reader.left = true) :
    st.writer ≠ .notSpawned := by
  intro hnone
  rcases h.writerSpawned hnone with hbefore | hbefore <;> simp [hbefore, Reader.left] at hleft

/-! ## When a thread can move -/

/-- Once the reader has dropped its sender and the daemon has taken everything, the registry's
    clone is the only sender left. -/
theorem senderAlive_joining (hreader : st.reader = .joining) (hqueue : st.queue = []) :
    st.senderAlive conn = st.daemon.registry.knows conn := by
  simp [senderAlive, hreader, hqueue, Reader.ownsSender]

/-- The writer is blocked exactly if it waits for messages, there is none, and a sender is
    alive. -/
theorem enabled_writer_iff (hspawned : st.writer ≠ .notSpawned) (hrunning : st.writer ≠ .ended) :
    Enabled conn peer .writer st ↔
      st.writer ≠ .receiving ∨ st.outbox ≠ [] ∨ st.senderAlive conn = false := by
  constructor
  · rintro ⟨st', hstep⟩
    cases hstep with
    | receive hwriter houtbox => exact Or.inr (Or.inl (by simp [houtbox]))
    | exhausted hwriter houtbox hsenders => exact Or.inr (Or.inr hsenders)
    | written hwriter => exact Or.inl (by simp [hwriter])
    | writeFailed hwriter => exact Or.inl (by simp [hwriter])
  · intro h
    cases hwriter : st.writer with
    | notSpawned => exact absurd hwriter hspawned
    | ended => exact absurd hwriter hrunning
    | writing message => exact ⟨_, Step.written st hwriter⟩
    | receiving =>
        cases houtbox : st.outbox with
        | cons message rest => exact ⟨_, Step.receive st hwriter houtbox⟩
        | nil =>
            rcases h with hno | hno | hsenders
            · exact absurd hwriter hno
            · exact absurd houtbox hno
            · exact ⟨_, Step.exhausted st hwriter houtbox hsenders⟩

/-- The reader, out of its loop and not yet done, is blocked exactly if it waits for the
    writer. -/
theorem enabled_reader_iff (hleft : st.reader.left = true) (hdone : st.reader ≠ .done) :
    Enabled conn peer .reader st ↔ (st.reader = .joining → st.writer = .ended) := by
  constructor
  · rintro ⟨st', hstep⟩ hjoining
    cases hstep with
    | join hreader hended => exact hended
    | announce hreader => rw [hreader] at hjoining; cases hjoining
    | spawn hreader => rw [hreader] at hjoining; cases hjoining
    | request request hreader => rw [hreader] at hjoining; cases hjoining
    | hangUp hreader => rw [hreader] at hjoining; cases hjoining
    | dropSender hreader => rw [hreader] at hjoining; cases hjoining
    | report hreader => rw [hreader] at hjoining; cases hjoining
  · intro h
    cases hreader : st.reader with
    | leaving => exact ⟨_, Step.dropSender st hreader⟩
    | joining => exact ⟨_, Step.join st hreader (h hreader)⟩
    | reporting => exact ⟨_, Step.report st hreader⟩
    | done => exact absurd hreader hdone
    | announcing => simp [hreader, Reader.left] at hleft
    | spawning => simp [hreader, Reader.left] at hleft
    | reading => simp [hreader, Reader.left] at hleft

/-- A state of the teardown is stuck exactly if the registry holds its sender while the writer
    waits for a message that is not there and the reader waits for the writer. -/
theorem getsOn_iff (h : Reachable conn peer st) (hleft : st.reader.left = true)
    (hqueue : st.queue = []) :
    GetsOn conn peer st ↔
      st.daemon.registry.knows conn = false ∨ st.outbox ≠ [] ∨ st.writer ≠ .receiving
        ∨ st.reader ≠ .joining := by
  unfold GetsOn
  -- away from the join the reader can always move; at the join it is up to the writer
  by_cases hjoining : st.reader = .joining
  · have hnotDone : st.reader ≠ .done := by simp [hjoining]
    have hspawned : st.writer ≠ .notSpawned := h.spawned hleft
    rw [enabled_reader_iff hleft hnotDone]
    by_cases hended : st.writer = .ended
    · simp [hended]
    · rw [enabled_writer_iff hspawned hended, senderAlive_joining hjoining hqueue]
      simp only [hjoining, hended, reduceCtorEq, false_or, forall_const, ne_eq, not_true_eq_false,
        or_false]
      tauto
  · by_cases hdone : st.reader = .done
    · simp [hdone]
    · rw [enabled_reader_iff hleft hdone]
      simp [hjoining]

/-! ## What the two threads do on their own -/

/-- A step of one of the connection's own two threads. -/
def ThreadStep (conn : ConnId) (peer : PeerCred) (st : Connection) (party : Party)
    (st' : Connection) : Prop :=
  party ≠ .daemon ∧ Step conn peer st party st'

theorem Reachable.threads {tr : List (Transition Connection Party)} (h : Reachable conn peer st)
    (hrun : Run (ThreadStep conn peer) st tr st') : Reachable conn peer st' :=
  hrun.invariant h fun _ _ _ hreach hstep => hreach.step hstep.2

/-- Nothing keeps the connection from being reported: the registry's sender is gone, or the
    writer has ended, or the reader has joined it. -/
def Released (conn : ConnId) (st : Connection) : Prop :=
  st.daemon.registry.knows conn = false ∨ st.writer = .ended ∨ st.reader = .reporting
    ∨ st.reader = .done

/-- Of a released connection the threads can only get further: until `Disconnected` is sent, the
    daemon has nothing of it left to take. -/
def Finishing (conn : ConnId) (st : Connection) : Prop :=
  st.reader = .done ∨ (st.reader.left = true ∧ st.queue = [] ∧ Released conn st)

theorem Finishing.step (h : Finishing conn st) (hstep : ThreadStep conn peer st party st') :
    Finishing conn st' := by
  obtain ⟨hparty, hstep⟩ := hstep
  rcases h with hdone | ⟨hleft, hqueue, hreleased⟩
  · -- a reader that is done takes no further step
    cases hstep with
    | announce hreader => rw [hreader] at hdone; cases hdone
    | spawn hreader => rw [hreader] at hdone; cases hdone
    | request request hreader => rw [hreader] at hdone; cases hdone
    | hangUp hreader => rw [hreader] at hdone; cases hdone
    | dropSender hreader => rw [hreader] at hdone; cases hdone
    | join hreader hended => rw [hreader] at hdone; cases hdone
    | report hreader => exact Or.inl rfl
    | receive hwriter houtbox => exact Or.inl hdone
    | exhausted hwriter houtbox hsenders => exact Or.inl hdone
    | written hwriter => exact Or.inl hdone
    | writeFailed hwriter => exact Or.inl hdone
    | take env htake => exact absurd rfl hparty
    | other env event hother => exact absurd rfl hparty
    | rehash hr => exact absurd rfl hparty
  · cases hstep with
    | announce hreader => simp [hreader, Reader.left] at hleft
    | spawn hreader => simp [hreader, Reader.left] at hleft
    | request request hreader => simp [hreader, Reader.left] at hleft
    | hangUp hreader => simp [hreader, Reader.left] at hleft
    | dropSender hreader =>
        refine Or.inr ⟨rfl, hqueue, ?_⟩
        simpa [Released, hreader] using hreleased
    | join hreader hended => exact Or.inr ⟨rfl, hqueue, Or.inr (Or.inr (Or.inl rfl))⟩
    | report hreader => exact Or.inl rfl
    | receive hwriter houtbox =>
        exact Or.inr ⟨hleft, hqueue, by simpa [Released, hwriter] using hreleased⟩
    | exhausted hwriter houtbox hsenders =>
        exact Or.inr ⟨hleft, hqueue, Or.inr (Or.inl rfl)⟩
    | written hwriter =>
        exact Or.inr ⟨hleft, hqueue, by simpa [Released, hwriter] using hreleased⟩
    | writeFailed hwriter => exact Or.inr ⟨hleft, hqueue, Or.inr (Or.inl rfl)⟩
    | take env htake => exact absurd rfl hparty
    | other env event hother => exact absurd rfl hparty
    | rehash hr => exact absurd rfl hparty

theorem Finishing.getsOn (h : Finishing conn st) (hreach : Reachable conn peer st) :
    GetsOn conn peer st := by
  rcases h with hdone | ⟨hleft, hqueue, hreleased⟩
  · exact Or.inl hdone
  · rw [getsOn_iff hreach hleft hqueue]
    rcases hreleased with hknows | hended | hreporting | hdone
    · exact Or.inl hknows
    · exact Or.inr (Or.inr (Or.inl (by simp [hended])))
    · exact Or.inr (Or.inr (Or.inr (by simp [hreporting])))
    · exact Or.inr (Or.inr (Or.inr (by simp [hdone])))

/-- A writer whose peer still reads takes and writes every message of the outbox. -/
theorem writer_drains (outbox : List Message) (houtbox : st.outbox = outbox)
    (hwriter : st.writer = .receiving) :
    ∃ tr, Run (ThreadStep conn peer) st tr { st with writer := .receiving, outbox := [] } := by
  induction outbox generalizing st with
  | nil =>
      obtain ⟨daemon, reader, writer, queue, outbox⟩ := st
      obtain rfl : outbox = [] := houtbox
      obtain rfl : writer = .receiving := hwriter
      exact ⟨[], Run.nil⟩
  | cons message rest ih =>
      have hreceive : ThreadStep conn peer st .writer
          { st with writer := .writing message, outbox := rest } :=
        ⟨by decide, Step.receive st hwriter houtbox⟩
      have hwritten : ThreadStep conn peer { st with writer := .writing message, outbox := rest }
          .writer { st with writer := .receiving, outbox := rest } :=
        ⟨by decide, Step.written _ rfl⟩
      obtain ⟨tr, hrest⟩ := @ih { st with writer := .receiving, outbox := rest } rfl rfl
      exact ⟨_, ((Run.single hreceive).snoc hwritten).append hrest⟩

/-- Left to themselves, the two threads of a connection the registry still holds come to wait for
    each other: the reader in its join, the writer for a message. -/
theorem threads_meet (hspawned : st.writer ≠ .notSpawned) (hended : st.writer ≠ .ended)
    (hreader : st.reader = .leaving ∨ st.reader = .joining) :
    ∃ tr, Run (ThreadStep conn peer) st tr
      { st with reader := .joining, writer := .receiving, outbox := [] } := by
  have hjoin : ∃ tr, Run (ThreadStep conn peer) st tr { st with reader := .joining } := by
    rcases hreader with hleaving | hjoining
    · exact ⟨_, Run.single ⟨by decide, Step.dropSender st hleaving⟩⟩
    · obtain ⟨daemon, reader, writer, queue, outbox⟩ := st
      obtain rfl : reader = .joining := hjoining
      exact ⟨[], Run.nil⟩
  have hwait : ∃ tr, Run (ThreadStep conn peer) { st with reader := .joining } tr
      { st with reader := .joining, writer := .receiving } := by
    cases hwriter : st.writer with
    | notSpawned => exact absurd hwriter hspawned
    | ended => exact absurd hwriter hended
    | receiving =>
        obtain ⟨daemon, reader, writer, queue, outbox⟩ := st
        obtain rfl : writer = .receiving := hwriter
        exact ⟨[], Run.nil⟩
    | writing message => exact ⟨_, Run.single ⟨by decide, Step.written _ rfl⟩⟩
  have hdrain : ∃ tr, Run (ThreadStep conn peer)
      { st with reader := .joining, writer := .receiving } tr
      { st with reader := .joining, writer := .receiving, outbox := [] } :=
    writer_drains st.outbox rfl rfl
  obtain ⟨trJoin, hjoin⟩ := hjoin
  obtain ⟨trWait, hwait⟩ := hwait
  obtain ⟨trDrain, hdrain⟩ := hdrain
  exact ⟨_, (hjoin.append hwait).append hdrain⟩

/-- **When the teardown of a connection cannot get stuck.** Take a reachable state in which the
    reader has left its loop and the daemon has taken every message of the connection. In that
    state `Disconnected` was sent or one of the two threads can move, exactly if the registry has
    dropped its sender, or the writer has a message to take, or it is not waiting for one, or the
    reader is not waiting for the writer. And that stays so, in whatever order the two threads go
    on from there, exactly if the registry has dropped its sender, or the writer has ended, or the
    reader has joined it. -/
theorem teardown_not_stuck_iff (h : Reachable conn peer st) (hleft : st.reader.left = true)
    (hqueue : st.queue = []) :
    (GetsOn conn peer st ↔
      st.daemon.registry.knows conn = false ∨ st.outbox ≠ [] ∨ st.writer ≠ .receiving
        ∨ st.reader ≠ .joining)
    ∧ ((∀ tr st', Run (ThreadStep conn peer) st tr st' → GetsOn conn peer st') ↔
      Released conn st) := by
  refine ⟨getsOn_iff h hleft hqueue, ?_, ?_⟩
  · intro hall
    by_contra hheld
    simp only [Released, not_or] at hheld
    obtain ⟨hknows, hended, hreporting, hdone⟩ := hheld
    have hreader : st.reader = .leaving ∨ st.reader = .joining := by
      cases hreader : st.reader <;> simp_all [Reader.left]
    obtain ⟨tr, hrun⟩ : ∃ tr, Run (ThreadStep conn peer) st tr
        { st with reader := .joining, writer := .receiving, outbox := [] } :=
      threads_meet (h.spawned hleft) hended hreader
    rcases (getsOn_iff (h.threads hrun) rfl hqueue).1 (hall _ _ hrun) with hno | hno | hno | hno
    · exact hknows hno
    all_goals exact hno rfl
  · intro hreleased tr st' hrun
    have hfinishing : Finishing conn st' :=
      hrun.invariant (Or.inr ⟨hleft, hqueue, hreleased⟩) fun _ _ _ hI hstep => hI.step hstep
    exact hfinishing.getsOn (h.threads hrun)

end Teardown

section Example

private def alice : PeerCred := { uid := 1000, gid := 1000, pid := 1 }

/-- Connection 7 of Alice is announced, served and then hangs up: its reader waits for the
    writer. -/
private def hungUp : Connection :=
  { daemon := (Daemon.demo.handle (demoEnv 0) (.ipc (.connected 7 alice {}))).1
    reader := .joining
    writer := .receiving }

private theorem served_reachable : Reachable 7 alice { hungUp with reader := .reading } := by
  have hannounce : Step 7 alice { daemon := Daemon.demo } .reader _ := Step.announce _ rfl
  have hrun := ((Run.single hannounce).snoc (Step.spawn _ rfl)).snoc (Step.take _ (demoEnv 0) rfl)
  exact ⟨_, _, ⟨Daemon.demo, Daemon.demo_reachable, rfl, rfl⟩, hrun⟩

/-- Neither of its threads can ever move, and `Disconnected` is never sent. -/
theorem hung_up_gets_stuck :
    ¬ ∀ (conn : ConnId) (peer : PeerCred) (st : Connection), Reachable conn peer st →
      st.reader.left = true → st.queue = [] → GetsOn conn peer st := by
  intro hclaim
  have hreach : Reachable 7 alice hungUp :=
    (served_reachable.step (Step.hangUp _ rfl)).step (Step.dropSender _ rfl)
  rcases hclaim 7 alice hungUp hreach rfl rfl with hdone | hreader | hwriter
  · cases hdone
  · cases (enabled_reader_iff rfl Reader.noConfusion).1 hreader rfl
  · rcases (enabled_writer_iff Writer.noConfusion Writer.noConfusion).1 hwriter with h | h | h
    · exact h rfl
    · exact h rfl
    · revert h
      decide

/-- Alice's compositor process exits before its connection hangs up: the daemon has dropped the
    sender by then, and the writer can end. -/
theorem released_teardown_moves :
    ∃ st : Connection, st.daemon.registry.knows 7 = false ∧ st.reader = .joining
      ∧ ∀ tr st', Run (ThreadStep 7 alice) st tr st' → GetsOn 7 alice st' := by
  have hcreated := (served_reachable.step
    (Step.request _ (.createSession "alice" none none) rfl)).step (Step.take _ (demoEnv 0) rfl)
  have hregistered := (hcreated.step (Step.request _ (.registerCompositor 1) rfl)).step
    (Step.take _ (demoEnv 0) rfl)
  have hexited := hregistered.step (Step.other _ (demoEnv 0)
    (.signal (.reapChildren [{ pid := 4242, respawned := .ok 4243 }])) rfl)
  have hreach := (hexited.step (Step.hangUp _ rfl)).step (Step.dropSender _ rfl)
  exact ⟨_, rfl, rfl, (teardown_not_stuck_iff hreach rfl rfl).2.2 (Or.inl rfl)⟩

end Example

end Connection

end MitosSession
