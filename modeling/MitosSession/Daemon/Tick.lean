import MitosSession.Daemon.Engage
import MitosSession.Daemon.Topics

set_option autoImplicit false

/-! # The effects of an idle tick

The loop of `on_idle_tick` goes through the seats whose stage changed. Which compositors a round
tells to dim or to prepare for sleep, and whether it calls the power backend, depends on a part of
the daemon (`Scene`) that no round writes to. So each of these effects is described by the stage
changes and the daemon before the tick alone. -/

namespace MitosSession

/-- The part of the daemon the rounds of the tick look at when they send something. -/
structure Scene where
  standing : Standing
  registry : ConnRegistry
  /-- The connection of each session's compositor. -/
  compositor : SessionId → Option ConnId

namespace Scene

/-- A stage change dims a screen: that of a seat whose active session has a compositor. -/
def Dims (self : Scene) (change : String × IdleStage) : Prop :=
  change.2 = .dimmed ∧ ∃ s c, self.standing.seats.activeSession change.1 = .ok (some s)
    ∧ self.compositor s = some c

/-- A stage change calls the power backend. -/
def Suspends (self : Scene) (change : String × IdleStage) : Prop :=
  change.2 = .suspendRequested ∧ self.standing.inhibitors.blocks .suspend = false

/-- `c` is some session's compositor, and the registry knows it. -/
def Hears (self : Scene) (c : ConnId) : Prop :=
  self.registry.knows c = true ∧ ∃ s, self.compositor s = some c

/-- A stage change tells `c` to prepare for sleep. -/
def Prepares (c : ConnId) (self : Scene) (change : String × IdleStage) : Prop :=
  self.Suspends change ∧ self.Hears c

end Scene

namespace Daemon

variable {d d' : Daemon} {env : Env}

/-- The connection of a session's compositor. -/
def compositorOf (self : Daemon) (s : SessionId) : Option ConnId :=
  (self.sessions.sessions.lookup s).bind SessionContext.compositorConn

def scene (self : Daemon) : Scene where
  standing := self.standing
  registry := self.registry
  compositor := self.compositorOf

theorem compositorOf_update (id : SessionId) {f : SessionContext → SessionContext}
    (hf : ∀ ctx, (f ctx).compositorConn = ctx.compositorConn) :
    { d with sessions := d.sessions.update id f }.compositorOf = d.compositorOf := by
  funext s
  unfold compositorOf
  rw [SessionManager.update_lookup]
  split
  · cases d.sessions.sessions.lookup s with
    | none => rfl
    | some ctx => exact hf ctx
  · rfl

theorem exists_compositorOf {c : ConnId} :
    (∃ s, d.compositorOf s = some c) ↔ ∃ ctx ∈ d.sessions.list, ctx.compositorConn = some c := by
  simp only [compositorOf, Option.bind_eq_some_iff, SessionManager.list, Table.mem_values]
  constructor
  · rintro ⟨s, ctx, hctx, hc⟩
    exact ⟨ctx, ⟨s, hctx⟩, hc⟩
  · rintro ⟨ctx, ⟨s, hctx⟩, hc⟩
    exact ⟨s, ctx, hctx, hc⟩

theorem idleChange_scene (change : String × IdleStage) :
    (idleChange env d change).1.scene = d.scene := by
  have hstanding : Rests d [] (idleChange env d change).1 := idleChange_rests change
  have hconns : (idleChange env d change).1.compositorOf = d.compositorOf := by
    obtain ⟨seatId, stage⟩ := change
    cases stage with
    | active => rfl
    | dimmed => rfl
    | lockRequested =>
        simp only [idleChange]
        rcases idleLock_shows d env seatId with heq | ⟨k, locks, -, heq⟩
        · rw [heq]
        · rw [heq]
          unfold showLock
          split
          · rfl
          · exact compositorOf_update _ fun ctx => ctx.transition_compositorConn .locked
    | suspendRequested => rfl
  simp only [scene, idleChange_registry, hconns, Scene.mk.injEq, and_true]
  exact hstanding

/-! ## Rounds -/

theorem idleChange_dims_iff (d : Daemon) (change : String × IdleStage) :
    (∃ e ∈ (idleChange env d change).2, e.topic = .dim) ↔ d.scene.Dims change := by
  unfold Scene.Dims
  obtain ⟨seatId, stage⟩ := change
  have hother : stage ≠ .dimmed → ¬ ∃ e ∈ (idleChange env d (seatId, stage)).2, e.topic = .dim := by
    rintro hstage ⟨e, he, htopic⟩
    have hlisted := idleChange_about (seatId, stage) e he
    rw [htopic] at hlisted
    cases stage <;> simp_all [IdleStage.topics]
  by_cases hstage : stage = .dimmed
  · subst hstage
    simp only [idleChange, notifyActiveCompositor, scene, standing, compositorOf, true_and]
    cases d.seats.activeSession seatId with
    | error e => simp
    | ok active =>
        cases active with
        | none => simp
        | some s =>
            simp only [Except.ok.injEq, Option.some.injEq, exists_and_left, exists_eq_left',
              SessionManager.get]
            cases d.sessions.sessions.lookup s with
            | none => simp
            | some ctx =>
                cases hconn : ctx.compositorConn with
                | none => simp [ConnRegistry.sendEventTo, hconn]
                | some c =>
                    simp [ConnRegistry.sendEventTo, ConnRegistry.sendEvent, hconn, Effect.topic,
                      Event.topic]
  · simp only [hstage, false_and, iff_false]
    exact hother hstage

/-- `power::suspend` calls the backend exactly if it is not blocked. -/
theorem idleSuspend_suspends_iff :
    (∃ e ∈ (d.idleSuspend env).2, e.topic = .suspend) ↔
      d.locks.inhibitors.blocks .suspend = false := by
  simp only [idleSuspend, MitosSession.suspend]
  split
  · rename_i hblocks
    simp [hblocks]
  · rename_i hblocks
    simp only [Bool.not_eq_true] at hblocks
    simp only [hblocks, iff_true]
    exact ⟨_, List.mem_append_right _ (List.mem_singleton_self _), rfl⟩

theorem idleChange_suspends_iff (d : Daemon) (change : String × IdleStage) :
    (∃ e ∈ (idleChange env d change).2, e.topic = .suspend) ↔ d.scene.Suspends change := by
  unfold Scene.Suspends
  obtain ⟨seatId, stage⟩ := change
  have hother : stage ≠ .suspendRequested →
      ¬ ∃ e ∈ (idleChange env d (seatId, stage)).2, e.topic = .suspend := by
    rintro hstage ⟨e, he, htopic⟩
    have hlisted := idleChange_about (seatId, stage) e he
    rw [htopic] at hlisted
    cases stage <;> simp_all [IdleStage.topics]
  by_cases hstage : stage = .suspendRequested
  · subst hstage
    simp only [true_and]
    exact idleSuspend_suspends_iff
  · simp only [hstage, false_and, iff_false]
    exact hother hstage

/-- `power::suspend` tells a compositor to prepare exactly if it is not blocked. -/
theorem mem_idleSuspend_prepare {c : ConnId} {queued : Bool} :
    Effect.send c (.event .prepareForSleep) queued ∈ (d.idleSuspend env).2 ↔
      d.locks.inhibitors.blocks .suspend = false ∧ queued = d.registry.knows c
        ∧ ∃ s, d.compositorOf s = some c := by
  have hloop : ∀ (visited : List SessionContext) (locks : LockManager),
      Effect.send c (.event .prepareForSleep) queued
        ∈ (forEach (suspendSession (LockPolicy.from d.settings.lock) d.registry) locks visited).2 ↔
      queued = d.registry.knows c ∧ ∃ ctx ∈ visited, ctx.compositorConn = some c := by
    intro visited
    induction visited with
    | nil => simp
    | cons ctx rest ih =>
        intro locks
        simp only [forEach_cons, List.mem_append, ih, suspendSession, List.mem_cons]
        cases hconn : ctx.compositorConn with
        | none => simp [ConnRegistry.sendEventTo, hconn]
        | some c' =>
            simp only [ConnRegistry.sendEventTo, ConnRegistry.sendEvent, Option.map_some,
              Option.toList_some, List.mem_singleton, Effect.send.injEq, true_and]
            constructor
            · rintro (⟨rfl, rfl⟩ | ⟨hqueued, ctx', hmem, hc⟩)
              · exact ⟨rfl, ctx, Or.inl rfl, hconn⟩
              · exact ⟨hqueued, ctx', Or.inr hmem, hc⟩
            · rintro ⟨hqueued, ctx', rfl | hmem, hc⟩
              · obtain rfl := Option.some.inj (hconn.symm.trans hc)
                exact Or.inl ⟨rfl, hqueued⟩
              · exact Or.inr ⟨hqueued, ctx', hmem, hc⟩
  have hwait : Effect.send c (.event .prepareForSleep) queued
      ∉ waitForDelayers d.locks.inhibitors .suspend
        (Duration.fromSecs d.settings.power.suspendInhibitGraceSecs) := by
    unfold waitForDelayers
    split <;> simp
  rw [exists_compositorOf]
  simp only [idleSuspend, MitosSession.suspend]
  split
  · rename_i hblocks
    simp [hblocks]
  · rename_i hblocks
    simp only [Bool.not_eq_true] at hblocks
    simp only [hblocks, List.mem_append, hwait, hloop, List.mem_singleton, reduceCtorEq, or_false,
      false_or, true_and]

theorem idleChange_prepares_iff (c : ConnId) (d : Daemon) (change : String × IdleStage) :
    (∃ e ∈ (idleChange env d change).2, e = .send c (.event .prepareForSleep) true) ↔
      d.scene.Prepares c change := by
  unfold Scene.Prepares Scene.Suspends
  obtain ⟨seatId, stage⟩ := change
  have hother : stage ≠ .suspendRequested →
      ¬ ∃ e ∈ (idleChange env d (seatId, stage)).2, e = .send c (.event .prepareForSleep) true := by
    rintro hstage ⟨e, he, rfl⟩
    have hlisted := idleChange_about (seatId, stage) _ he
    cases stage <;> simp_all [IdleStage.topics, Effect.topic, Event.topic]
  by_cases hstage : stage = .suspendRequested
  · subst hstage
    simp only [exists_eq_right, true_and, idleChange]
    rw [mem_idleSuspend_prepare, eq_comm (a := true)]
    rfl
  · simp only [hstage, false_and, iff_false]
    exact hother hstage

/-! ## Whole ticks -/

/-- A tick reaches the suspend stage of some seat. -/
def TickSuspends (d : Daemon) (now : Instant) : Prop :=
  ∃ seatId, (seatId, .suspendRequested) ∈ d.stageChanges now

/-- The rounds of a tick, judged one by one. -/
theorem exists_mem_onIdleTick {P : Effect → Prop} {Q : Scene → String × IdleStage → Prop}
    (hround : ∀ (d : Daemon) change, (∃ e ∈ (idleChange env d change).2, P e) ↔ Q d.scene change)
    (hsweep : ∀ e, P e → e.topic ≠ .prompt ∧ e.topic ≠ .reply) :
    (∃ e ∈ (d.onIdleTick env).2, P e) ↔ ∃ change ∈ d.stageChanges env.now,
      Q { d.scene with standing := (d.onIdleTick env).1.standing } change := by
  have hscene : { d with idle := (d.idle.tick env.now (IdlePolicy.from d.settings.idle)).1 }.scene
      = { d.scene with standing := (d.onIdleTick env).1.standing } := by
    rw [onIdleTick_standing]
    rfl
  rw [← hscene]
  refine Iff.trans ?_ (exists_mem_forEach_iff scene (idleChange env)
    (fun d change => idleChange_scene change) hround (d.stageChanges env.now) _)
  simp only [onIdleTick, List.mem_append]
  refine exists_congr fun e => and_congr_left fun he => or_iff_left fun hmem => ?_
  have hlisted := sweep_about env.now e hmem
  have hne := hsweep e he
  simp [hne.1, hne.2] at hlisted

/-- While suspending is blocked, a tick neither calls the backend nor tells anyone to prepare. -/
theorem onIdleTick_about_of_blocked (h : d.locks.inhibitors.blocks .suspend = true) :
    About [.dim, .lockScreen, .prompt, .reply] (d.onIdleTick env).2 := by
  refine about_append.2 ⟨?_, (sweep_about env.now).mono (by simp)⟩
  refine ((about_seqClosed Daemon _).loop_of_invariant
    (I := fun d => d.locks.inhibitors.blocks .suspend = true) (idleChange env) _ ?_ _ ?_).2
  swap
  · exact h
  intro d hd change _
  have hrests : Rests d [] (idleChange env d change).1 := idleChange_rests change
  refine ⟨?_, ?_⟩
  · have hinhibitors := congrArg Standing.inhibitors hrests
    exact (congrArg (·.blocks .suspend) hinhibitors).trans hd
  · obtain ⟨seatId, stage⟩ := change
    cases stage with
    | suspendRequested => simp [idleChange, idleSuspend, MitosSession.suspend, hd]
    | _ => exact (idleChange_about _).mono (by simp [IdleStage.topics])

theorem onIdleTick_dims_iff :
    (∃ e ∈ (d.onIdleTick env).2, e.topic = .dim) ↔ ∃ seatId s c,
      (seatId, .dimmed) ∈ d.stageChanges env.now ∧ d.seats.activeSession seatId = .ok (some s)
        ∧ d.compositorOf s = some c := by
  rw [exists_mem_onIdleTick idleChange_dims_iff (by simp +contextual), onIdleTick_standing]
  constructor
  · rintro ⟨⟨seatId, stage⟩, hmem, rfl, s, c, hs, hc⟩
    exact ⟨seatId, s, c, hmem, hs, hc⟩
  · rintro ⟨seatId, s, c, hmem, hs, hc⟩
    exact ⟨(seatId, .dimmed), hmem, rfl, s, c, hs, hc⟩

theorem onIdleTick_suspends_iff :
    (∃ e ∈ (d.onIdleTick env).2, e.topic = .suspend) ↔
      TickSuspends d env.now ∧ d.locks.inhibitors.blocks .suspend = false := by
  rw [exists_mem_onIdleTick idleChange_suspends_iff (by simp +contextual), onIdleTick_standing]
  constructor
  · rintro ⟨⟨seatId, stage⟩, hmem, rfl, hblocks⟩
    exact ⟨⟨seatId, hmem⟩, hblocks⟩
  · rintro ⟨⟨seatId, hmem⟩, hblocks⟩
    exact ⟨_, hmem, rfl, hblocks⟩

theorem onIdleTick_prepares_iff {c : ConnId} :
    Effect.send c (.event .prepareForSleep) true ∈ (d.onIdleTick env).2 ↔
      TickSuspends d env.now ∧ d.locks.inhibitors.blocks .suspend = false ∧ d.scene.Hears c := by
  have hsends : ∀ e : Effect, e = .send c (.event .prepareForSleep) true →
      e.topic ≠ .prompt ∧ e.topic ≠ .reply := by
    rintro e rfl
    simp [Effect.topic, Event.topic]
  rw [← exists_eq_right (p := fun e => e ∈ (d.onIdleTick env).2),
    exists_mem_onIdleTick (idleChange_prepares_iff c) hsends, onIdleTick_standing]
  constructor
  · rintro ⟨⟨seatId, stage⟩, hmem, ⟨rfl, hblocks⟩, hhears⟩
    exact ⟨⟨seatId, hmem⟩, hblocks, hhears⟩
  · rintro ⟨⟨seatId, hmem⟩, hblocks, hhears⟩
    exact ⟨_, hmem, ⟨rfl, hblocks⟩, hhears⟩

end Daemon

end MitosSession
