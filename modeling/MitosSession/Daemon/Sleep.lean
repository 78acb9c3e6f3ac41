import MitosSession.Daemon.Tick

set_option autoImplicit false

/-! # Who is told that the machine sleeps, and that it is back

`power::suspend` sends `PrepareForSleep` to every registered compositor before it calls the
backend, which returns once the machine is back. `power::on_resume` is the other half, and nothing
calls it: no handler ever sends `ResumedFromSleep`. So the two counts agree for a connection
exactly as long as it is never told to prepare (`sleep_paired_iff`). -/

namespace MitosSession

/-- The effect puts the event into the outbox of `c`. -/
def Effect.delivers (c : ConnId) (event : Event) : Effect → Bool
  | .send conn (.event e) true => decide (conn = c ∧ e = event)
  | _ => false

theorem Effect.delivers_iff {c : ConnId} {event : Event} {e : Effect} :
    e.delivers c event = true ↔ e = .send c (.event event) true := by
  unfold Effect.delivers
  split
  · simp
  · rename_i hne
    simp only [Bool.false_eq_true, false_iff]
    rintro rfl
    exact hne c event rfl

namespace Daemon

/-- How often the event was put into the outbox of `c`. -/
def delivered (c : ConnId) (event : Event) (tr : List (Transition Daemon DaemonLabel)) : ℕ :=
  (tr.flatMap fun x => x.label.effects).countP (Effect.delivers c event)

theorem delivered_eq_zero_iff {c : ConnId} {event : Event}
    {tr : List (Transition Daemon DaemonLabel)} :
    delivered c event tr = 0 ↔ ∀ x ∈ tr, Effect.send c (.event event) true ∉ x.label.effects := by
  simp only [delivered, List.countP_eq_zero, List.mem_flatMap, Effect.delivers_iff]
  constructor
  · intro h x hx hmem
    exact h _ ⟨x, hx, hmem⟩ rfl
  · rintro h e ⟨x, hx, he⟩ rfl
    exact h x hx he

/-- The event runs `power::suspend` to its end while `c` is a compositor the registry knows. -/
def Prepares (c : ConnId) (d : Daemon) (env : Env) (event : DaemonEvent) : Prop :=
  ((event = .idleTick ∧ TickSuspends d env.now)
      ∨ ∃ cmd, event = .ipc (.command cmd) ∧ cmd.request = .suspend)
    ∧ d.locks.inhibitors.blocks .suspend = false ∧ d.scene.Hears c

/-- The same for the steps of a run. -/
def PreparesStep (c : ConnId) (x : Transition Daemon DaemonLabel) : Prop :=
  match x.label with
  | .handled env event _ => Prepares c x.pre env event
  | .rehash => False

variable {d : Daemon} {env : Env} {c : ConnId}

/-- No handler tells anyone that the machine is back. -/
theorem resumed_notMem (d : Daemon) (env : Env) (event : DaemonEvent) (queued : Bool) :
    Effect.send c (.event .resumedFromSleep) queued ∉ (d.handle env event).2 := by
  intro hmem
  have hlisted : Topic.resume ∈ event.topics := handle_topics d env event _ hmem
  rcases DaemonEvent.of_mem_topics hlisted (by decide) with ⟨cmd, rfl, hrequest⟩ | ⟨rfl, htick⟩
  · cases hr : cmd.request <;> simp [hr, Request.topics] at hrequest
  · simp at htick

/-- The events that tell a compositor to prepare. -/
theorem prepare_mem_iff (d : Daemon) (env : Env) (event : DaemonEvent) :
    Effect.send c (.event .prepareForSleep) true ∈ (d.handle env event).2 ↔
      Prepares c d env event := by
  have hlisted : Effect.send c (.event .prepareForSleep) true ∈ (d.handle env event).2 →
      Topic.sleep ∈ event.topics := handle_topics d env event _
  match event with
  | .ipc (.connected connId peer outbox) => simp [Prepares, handle, handleIpc]
  | .ipc (.disconnected connId) =>
      refine iff_of_false (fun hmem => ?_) (by simp [Prepares])
      simpa [DaemonEvent.topics] using hlisted hmem
  | .ipc (.command cmd) =>
      by_cases hrequest : cmd.request = .suspend
      · obtain ⟨response, hhandle⟩ := handle_suspend d env hrequest
        rw [hhandle]
        simp only [List.mem_append, List.mem_singleton, ConnRegistry.sendResponse,
          Effect.send.injEq, reduceCtorEq, false_and, and_false, or_false]
        rw [mem_idleSuspend_prepare, eq_comm (a := true)]
        simp [Prepares, hrequest, Scene.Hears, scene]
      · refine iff_of_false (fun hmem => ?_) (by simp [Prepares, hrequest])
        have htopic : Topic.sleep ∈ cmd.request.topics := by
          simpa [DaemonEvent.topics] using hlisted hmem
        exact hrequest (Request.eq_suspend_of_topics htopic (Or.inr rfl))
  | .idleTick =>
      refine onIdleTick_prepares_iff.trans ?_
      simp [Prepares]
  | .signal .terminate => simp [Prepares, handle, onSignal]
  | .signal .reloadConfig => simp [Prepares, handle, onSignal]
  | .signal (.reapChildren children) =>
      refine iff_of_false (fun hmem => ?_) (by simp [Prepares])
      simpa [DaemonEvent.topics] using hlisted hmem

/-- **When sleep notifications are paired.** Along every run and for every connection, the number
    of `ResumedFromSleep` it was sent equals the number of `PrepareForSleep` after every step,
    exactly if no suspend, from a request or from an idle tick, goes through while the connection
    is a registered compositor. -/
theorem sleep_paired_iff {d₀ : Daemon} {tr : List (Transition Daemon DaemonLabel)}
    (hrun : Run Step d₀ tr d) (c : ConnId) :
    (∀ tr', tr' <+: tr →
        delivered c .resumedFromSleep tr' = delivered c .prepareForSleep tr') ↔
      ∀ x ∈ tr, ¬ PreparesStep c x := by
  have hresumed : ∀ tr', tr' <+: tr → delivered c .resumedFromSleep tr' = 0 := by
    intro tr' hsub
    refine delivered_eq_zero_iff.2 fun x hx => ?_
    obtain ⟨-, hstep⟩ := hrun.of_mem (hsub.subset hx)
    obtain ⟨pre, label, post⟩ := x
    change Step pre label post at hstep
    cases hstep with
    | handled env event => exact resumed_notMem pre env event true
    | rehash hr => simp [DaemonLabel.effects]
  have hprepared : ∀ x ∈ tr,
      (Effect.send c (.event .prepareForSleep) true ∉ x.label.effects ↔ ¬ PreparesStep c x) := by
    intro x hx
    obtain ⟨-, hstep⟩ := hrun.of_mem hx
    obtain ⟨pre, label, post⟩ := x
    change Step pre label post at hstep
    cases hstep with
    | handled env event => exact not_congr (prepare_mem_iff pre env event)
    | rehash hr => simp [DaemonLabel.effects, PreparesStep]
  constructor
  · intro hpaired x hx
    have hall := hpaired tr List.prefix_rfl
    rw [hresumed tr List.prefix_rfl] at hall
    exact (hprepared x hx).1 (delivered_eq_zero_iff.1 hall.symm x hx)
  · intro hnone tr' hsub
    rw [hresumed tr' hsub]
    symm
    refine delivered_eq_zero_iff.2 fun x hx => ?_
    exact (hprepared x (hsub.subset hx)).2 (hnone x (hsub.subset hx))

section Example

/-- As long as nobody asks for a suspend there is nothing to pair. -/
theorem lock_sends_no_sleep :
    delivered 7 .resumedFromSleep (demoTrace (demoThen [(demoEnv 0, .ipc (.command
        (demoCommand 7 1000 (.lockSession 1))))]))
      = delivered 7 .prepareForSleep (demoTrace (demoThen [(demoEnv 0, .ipc (.command
        (demoCommand 7 1000 (.lockSession 1))))])) := by
  refine (sleep_paired_iff (demoTrace_run (by decide)) 7).2 ?_ _ List.prefix_rfl
  intro x hx
  simp only [demoTrace, demoThen, List.cons_append, List.nil_append, System.transitions,
    List.map_cons, List.map_nil, System.toDaemon, List.mem_cons, List.not_mem_nil,
    or_false] at hx
  rcases hx with rfl | rfl | rfl | rfl <;>
    simp [PreparesStep, Prepares, demoConnect, demoCommand]

/-- After one suspend, Alice's compositor was told to prepare once and to resume never. -/
theorem suspend_never_resumed :
    ¬ ∀ (d₀ d : Daemon) (tr : List (Transition Daemon DaemonLabel)), Initial d₀ →
      Run Step d₀ tr d → ∀ c, (∃ s, d.compositorOf s = some c) → ∀ tr', tr' <+: tr →
        delivered c .resumedFromSleep tr' = delivered c .prepareForSleep tr' := by
  intro hclaim
  have hrun : Run Step demo (demoTrace (demoThen [(demoEnv 0, .ipc (.command (demoCommand 7 1000
    .suspend)))])) _ := demoTrace_run (by decide)
  have hpaired := hclaim _ _ _ demo_initial hrun 7 ⟨1, by decide⟩ _ List.prefix_rfl
  revert hpaired
  decide

end Example

end Daemon

end MitosSession
