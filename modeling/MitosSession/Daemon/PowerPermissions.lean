import MitosSession.Daemon.Tick

set_option autoImplicit false

/-! # The power permissions of the configuration

`[power]` has `allow_suspend`, `allow_reboot` and `allow_poweroff`. They are read from the file and
nothing looks at them again: the one thing that stops `power::suspend` is a `Block` inhibitor on
suspend, and the one that stops `power::reboot` and `power::poweroff` a `Block` inhibitor on
shutdown. What a refusal would be is stated here for each of the three (`RefusesSuspend`,
`RefusesShutdown`), and `power_permissions_iff` says exactly when the daemon refuses. -/

namespace MitosSession

namespace Daemon

variable {d d' d₀ : Daemon} {env : Env} {event : DaemonEvent}

/-! ## Refusing -/

/-- A stage change that does not ask for suspend. -/
def staysAwake (change : String × IdleStage) : Bool :=
  change.2 ≠ .suspendRequested

/-- `on_idle_tick` without its suspend arms. -/
def onIdleTickAwake (self : Daemon) (env : Env) : Daemon × List Effect :=
  let ticked := self.idle.tick env.now (IdlePolicy.from self.settings.idle)
  let changed := forEach (idleChange env) { self with idle := ticked.1 }
    (ticked.2.filter staysAwake)
  let swept := changed.1.sweep env.now
  (swept.1, changed.2 ++ swept.2)

/-- The event is the given request, from any peer. -/
def Asks (request : Request) (event : DaemonEvent) : Prop :=
  ∃ cmd, event = .ipc (.command cmd) ∧ cmd.request = request

/-- The event gets to `power::suspend`, by a request or by an idle tick. -/
def AsksSuspend (d : Daemon) (env : Env) (event : DaemonEvent) : Prop :=
  Asks .suspend event ∨ event = .idleTick ∧ TickSuspends d env.now

/-- Nothing happens on account of a suspend: the backend is not called, no compositor is told to
    prepare, a request leaves the daemon as it was, and a tick does what it does without its
    suspend arms. -/
structure RefusesSuspend (d : Daemon) (env : Env) (event : DaemonEvent) (effects : List Effect)
    (d' : Daemon) : Prop where
  quiet : ∀ e ∈ effects, e.topic ≠ .suspend ∧ e.topic ≠ .sleep
  request : Asks .suspend event → d' = d
  tick : event = .idleTick → (d', effects) = d.onIdleTickAwake env

/-- The backend is not called, and a request terminates no session. -/
structure RefusesShutdown (topic : Topic) (request : Request) (d : Daemon) (event : DaemonEvent)
    (effects : List Effect) (d' : Daemon) : Prop where
  quiet : ∀ e ∈ effects, e.topic ≠ topic
  request : Asks request event → d'.sessions = d.sessions

/-- The step refuses what the settings in force do not allow. -/
def HonoursPermissions (x : Transition Daemon DaemonLabel) : Prop :=
  match x.label with
  | .handled env event effects =>
    (x.pre.settings.power.allowSuspend = false → RefusesSuspend x.pre env event effects x.post)
      ∧ (x.pre.settings.power.allowReboot = false →
        RefusesShutdown .reboot .reboot x.pre event effects x.post)
      ∧ (x.pre.settings.power.allowPoweroff = false →
        RefusesShutdown .poweroff .powerOff x.pre event effects x.post)
  | .rehash => True

/-- Whatever the step asks for and the settings in force do not allow, an inhibitor blocks. -/
def PermittedOrBlocked (x : Transition Daemon DaemonLabel) : Prop :=
  match x.label with
  | .handled env event _ =>
    (x.pre.settings.power.allowSuspend = false → AsksSuspend x.pre env event →
        x.pre.locks.inhibitors.blocks .suspend = true)
      ∧ (x.pre.settings.power.allowReboot = false → Asks .reboot event →
        x.pre.locks.inhibitors.blocks .shutdown = true)
      ∧ (x.pre.settings.power.allowPoweroff = false → Asks .powerOff event →
        x.pre.locks.inhibitors.blocks .shutdown = true)
  | .rehash => True

/-! ## Suspend -/

theorem onIdleTickAwake_about :
    About [.dim, .lockScreen, .prompt, .reply] (d.onIdleTickAwake env).2 := by
  refine about_append.2 ⟨?_, (sweep_about env.now).mono (by simp)⟩
  refine about_forEach _ _ ?_ _
  rintro d ⟨seatId, stage⟩ hchange
  have hawake : stage ≠ .suspendRequested := by
    simpa [staysAwake] using (List.mem_filter.1 hchange).2
  refine (idleChange_about (seatId, stage)).mono ?_
  cases stage with
  | suspendRequested => exact absurd rfl hawake
  | _ => simp [IdleStage.topics]

/-- While an inhibitor blocks it, `power::suspend` does nothing. -/
theorem idleSuspend_inhibited (h : d.locks.inhibitors.blocks .suspend = true) :
    d.idleSuspend env = (d, []) := by
  simp only [idleSuspend, MitosSession.suspend, h, if_true]

/-- A tick leaves its suspend arms out if there is none, or if an inhibitor blocks them. -/
theorem onIdleTick_eq_awake
    (h : TickSuspends d env.now → d.locks.inhibitors.blocks .suspend = true) :
    d.onIdleTick env = d.onIdleTickAwake env := by
  have hloop : forEach (idleChange env)
      { d with idle := (d.idle.tick env.now (IdlePolicy.from d.settings.idle)).1 }
      ((d.stageChanges env.now).filter staysAwake)
        = forEach (idleChange env)
          { d with idle := (d.idle.tick env.now (IdlePolicy.from d.settings.idle)).1 }
          (d.stageChanges env.now) := by
    by_cases hsuspends : TickSuspends d env.now
    -- no stage change touches the inhibitors, so all suspend arms of the tick are blocked
    · refine forEach_filter (I := fun d => d.locks.inhibitors.blocks .suspend = true) _ _
        ?_ ?_ _ _ (h hsuspends)
      · intro d change hblocks
        have hrests : Rests d [] (idleChange env d change).1 := idleChange_rests change
        have hinhibitors := congrArg Standing.inhibitors hrests
        exact (congrArg (·.blocks .suspend) hinhibitors).trans hblocks
      · rintro d ⟨seatId, stage⟩ hblocks hasks
        have hstage : stage = .suspendRequested := by
          simpa [staysAwake] using hasks
        subst hstage
        exact idleSuspend_inhibited hblocks
    · rw [List.filter_eq_self.2]
      rintro ⟨seatId, stage⟩ hchange
      simp only [staysAwake, ne_eq, decide_not, Bool.not_eq_true', decide_eq_false_iff_not]
      rintro rfl
      exact hsuspends ⟨seatId, hchange⟩
  unfold onIdleTick onIdleTickAwake
  dsimp only
  unfold stageChanges at hloop
  rw [hloop]

/-- Only these events are about suspending. -/
theorem quiet_of_not_asksSuspend (h : ¬ AsksSuspend d env event) :
    ∀ e ∈ (d.handle env event).2, e.topic ≠ .suspend ∧ e.topic ≠ .sleep := by
  intro e he
  rw [← not_or]
  intro htopic
  have hother : e.topic ∉ [Topic.prompt, .reply, .process] := by
    rcases htopic with htopic | htopic <;> simp [htopic]
  rcases DaemonEvent.of_mem_topics (handle_topics d env event e he) hother with
    ⟨cmd, rfl, hmem⟩ | ⟨rfl, -⟩
  · exact h (Or.inl ⟨cmd, rfl, Request.eq_suspend_of_topics hmem htopic⟩)
  · have hawake : d.handle env .idleTick = d.onIdleTickAwake env :=
      onIdleTick_eq_awake fun hsuspends => absurd (Or.inr ⟨rfl, hsuspends⟩) h
    rw [hawake] at he
    have habout := onIdleTickAwake_about e he
    rcases htopic with htopic | htopic <;> simp [htopic] at habout

theorem refusesSuspend_iff (d : Daemon) (env : Env) (event : DaemonEvent) :
    RefusesSuspend d env event (d.handle env event).2 (d.handle env event).1 ↔
      (AsksSuspend d env event → d.locks.inhibitors.blocks .suspend = true) := by
  constructor
  · intro hrefuses hasks
    -- asked for and not blocked, the backend is called: no handler looks at the permission
    by_contra hblocks
    rw [Bool.not_eq_true] at hblocks
    obtain ⟨e, he, htopic⟩ : ∃ e ∈ (d.handle env event).2, e.topic = .suspend := by
      rcases hasks with ⟨cmd, rfl, hrequest⟩ | ⟨rfl, hsuspends⟩
      · obtain ⟨response, hhandle⟩ := handle_suspend d env hrequest
        obtain ⟨e, he, htopic⟩ : ∃ e ∈ (d.idleSuspend env).2, e.topic = .suspend :=
          idleSuspend_suspends_iff.2 hblocks
        rw [hhandle]
        exact ⟨e, List.mem_append_left _ he, htopic⟩
      · exact onIdleTick_suspends_iff.2 ⟨hsuspends, hblocks⟩
    exact (hrefuses.quiet e he).1 htopic
  · intro hblocks
    by_cases hasks : AsksSuspend d env event
    -- two entry paths: the request, which is then only answered, and the idle tick
    · rcases hasks with ⟨cmd, rfl, hrequest⟩ | ⟨rfl, hsuspends⟩
      · obtain ⟨response, hhandle⟩ := handle_suspend d env hrequest
        rw [idleSuspend_inhibited (hblocks (Or.inl ⟨cmd, rfl, hrequest⟩))] at hhandle
        rw [hhandle]
        exact ⟨by simp [ConnRegistry.sendResponse, Effect.topic], fun _ => rfl, by simp⟩
      · have hawake : d.handle env .idleTick = d.onIdleTickAwake env :=
          onIdleTick_eq_awake fun hsuspends => hblocks (Or.inr ⟨rfl, hsuspends⟩)
        rw [hawake]
        refine ⟨fun e he => ?_, fun hasks => ?_, fun _ => rfl⟩
        · have habout := onIdleTickAwake_about e he
          constructor <;> (intro htopic; simp [htopic] at habout)
        · obtain ⟨cmd, hcmd, -⟩ := hasks
          cases hcmd
    · refine ⟨quiet_of_not_asksSuspend hasks, fun hrequest => absurd (Or.inl hrequest) hasks, ?_⟩
      rintro rfl
      exact onIdleTick_eq_awake fun hsuspends => absurd (Or.inr ⟨rfl, hsuspends⟩) hasks

/-! ## Reboot and power off -/

/-- How the two requests go: an inhibitor blocks them, or every session is terminated and the
    backend called. -/
def ShutsDown (call : Effect) (d : Daemon) (cmd : ManagerCommand) (done : Daemon × List Effect) :
    Prop :=
  ∃ response,
    (d.locks.inhibitors.blocks .shutdown = true
        ∧ done = (d, [d.registry.sendResponse cmd.connId response]))
      ∨ d.locks.inhibitors.blocks .shutdown = false
        ∧ done = ({ d with sessions := d.sessions.terminateAll },
          waitForDelayers d.locks.inhibitors .shutdown
            (Duration.fromSecs d.settings.power.suspendInhibitGraceSecs)
            ++ [call] ++ [d.registry.sendResponse cmd.connId response])

theorem handle_reboot (d : Daemon) (env : Env) {cmd : ManagerCommand}
    (hrequest : cmd.request = .reboot) :
    ShutsDown .backendReboot d cmd (d.handle env (.ipc (.command cmd))) := by
  rw [handle_authorized (authorize_open (by rw [hrequest]; rfl))]
  simp only [dispatch, hrequest, MitosSession.reboot]
  cases hblocks : d.locks.inhibitors.blocks .shutdown with
  | true => exact ⟨_, Or.inl ⟨hblocks, rfl⟩⟩
  | false => exact ⟨_, Or.inr ⟨hblocks, rfl⟩⟩

theorem handle_powerOff (d : Daemon) (env : Env) {cmd : ManagerCommand}
    (hrequest : cmd.request = .powerOff) :
    ShutsDown .backendPoweroff d cmd (d.handle env (.ipc (.command cmd))) := by
  rw [handle_authorized (authorize_open (by rw [hrequest]; rfl))]
  simp only [dispatch, hrequest, MitosSession.poweroff]
  cases hblocks : d.locks.inhibitors.blocks .shutdown with
  | true => exact ⟨_, Or.inl ⟨hblocks, rfl⟩⟩
  | false => exact ⟨_, Or.inr ⟨hblocks, rfl⟩⟩

/-- The two requests are refused exactly while an inhibitor blocks them. -/
theorem refusesShutdown_iff {call : Effect} {request : Request} (d : Daemon) (env : Env)
    (event : DaemonEvent)
    (hgoes : ∀ cmd : ManagerCommand, cmd.request = request →
      ShutsDown call d cmd (d.handle env (.ipc (.command cmd))))
    (hreply : call.topic ≠ .reply) (honly : call.topic ∈ event.topics → Asks request event) :
    RefusesShutdown call.topic request d event (d.handle env event).2 (d.handle env event).1 ↔
      (Asks request event → d.locks.inhibitors.blocks .shutdown = true) := by
  constructor
  · rintro hrefuses ⟨cmd, rfl, hrequest⟩
    obtain ⟨response, ⟨hblocks, -⟩ | ⟨-, hdone⟩⟩ := hgoes cmd hrequest
    · exact hblocks
    · refine absurd rfl (hrefuses.quiet call ?_)
      rw [hdone]
      simp
  · intro hblocks
    by_cases hasks : Asks request event
    · have hblocked := hblocks hasks
      obtain ⟨cmd, rfl, hrequest⟩ := hasks
      obtain ⟨response, ⟨-, hdone⟩ | ⟨hfree, -⟩⟩ := hgoes cmd hrequest
      · rw [hdone]
        refine ⟨fun e he => ?_, fun _ => rfl⟩
        obtain rfl := List.mem_singleton.1 he
        exact hreply.symm
      · rw [hblocked] at hfree
        cases hfree
    · refine ⟨fun e he htopic => hasks (honly ?_), fun hrequest => absurd hrequest hasks⟩
      have hlisted : e.topic ∈ event.topics := handle_topics d env event e he
      rwa [htopic] at hlisted

/-- A topic that one request alone may cause. -/
theorem asks_of_topics {topic : Topic} {request : Request} (h : topic ∈ event.topics)
    (hother : topic ∉ [Topic.prompt, .reply, .process])
    (htick : topic ∉ [Topic.dim, .lockScreen, .wait, .sleep, .suspend])
    (hrequest : ∀ r : Request, topic ∈ r.topics → r = request) : Asks request event := by
  rcases DaemonEvent.of_mem_topics h hother with ⟨cmd, rfl, hmem⟩ | ⟨-, hmem⟩
  · exact ⟨cmd, rfl, hrequest cmd.request hmem⟩
  · exact absurd hmem htick

/-! ## Whole runs -/

/-- **When the power permissions are honoured.** Along every run, with any reloads in it, each step
    refuses the suspend, the reboot or the power off that the settings in force do not allow,
    exactly if no step asks for one of them while it is not allowed and no inhibitor blocks it. -/
theorem power_permissions_iff {tr : List (Transition Daemon DaemonLabel)}
    (hrun : Run Step d₀ tr d) :
    (∀ x ∈ tr, HonoursPermissions x) ↔ ∀ x ∈ tr, PermittedOrBlocked x := by
  refine forall₂_congr fun x hx => ?_
  obtain ⟨-, hstep⟩ := hrun.of_mem hx
  obtain ⟨pre, label, post⟩ := x
  dsimp only at hstep
  cases hstep with
  | handled env event =>
      simp only [HonoursPermissions, PermittedOrBlocked]
      have hsuspend := refusesSuspend_iff pre env event
      have hreboot := refusesShutdown_iff pre env event (fun _ => handle_reboot pre env)
        (by decide) fun h => asks_of_topics h (by decide) (by decide)
          fun _ => Request.eq_reboot_of_topics
      have hpowerOff := refusesShutdown_iff pre env event (fun _ => handle_powerOff pre env)
        (by decide) fun h => asks_of_topics h (by decide) (by decide)
          fun _ => Request.eq_powerOff_of_topics
      exact and_congr (imp_congr_right fun _ => hsuspend)
        (and_congr (imp_congr_right fun _ => hreboot) (imp_congr_right fun _ => hpowerOff))
  | rehash hr => simp only [HonoursPermissions, PermittedOrBlocked]

/-- A configuration that allows none of the three is loaded, and then comes something else. -/
private def forbiddenThen (later : List Request) : List (Env × DaemonEvent) :=
  (demoEnv 0, demoConnect 7 1000) ::
    ({ demoEnv 0 with
        config :=
          { configVar := none
            fileExists := fun _ => true
            readToString := fun _ => .ok "forbidding"
            fromToml := fun _ => .ok
              { (default : Settings) with
                power :=
                  { (default : PowerSettings) with
                    allowSuspend := false, allowReboot := false, allowPoweroff := false } } } },
      .signal .reloadConfig) ::
    later.map fun request => (demoEnv 0, .ipc (.command (demoCommand 7 1000 request)))

/-- Alice blocks suspending, and then asks for it. -/
private def blockedThenAsked : List (Env × DaemonEvent) :=
  forbiddenThen [.inhibit .suspend "backup" "copying" .block, .suspend]

/-- Under such a configuration a request is refused while an inhibitor blocks it. -/
theorem power_permissions_blocked :
    (∃ x ∈ demoTrace blockedThenAsked, x.pre.settings.power.allowSuspend = false
        ∧ ∃ cmd, x.label.command = some cmd ∧ cmd.request = .suspend)
      ∧ ∀ x ∈ demoTrace blockedThenAsked, HonoursPermissions x := by
  refine ⟨⟨_, List.mem_cons_of_mem _ (List.mem_cons_of_mem _ (List.mem_cons_of_mem _
    (List.mem_singleton_self _))), rfl, _, rfl, rfl⟩, ?_⟩
  refine (power_permissions_iff (demoTrace_run (by decide))).2 ?_
  intro x hx
  simp only [demoTrace, blockedThenAsked, forbiddenThen, List.map_cons, List.map_nil,
    System.transitions, List.mem_cons, List.not_mem_nil, or_false] at hx
  rcases hx with rfl | rfl | rfl | rfl
  · simp [PermittedOrBlocked, System.toDaemon, Asks, AsksSuspend, demoConnect]
  · simp [PermittedOrBlocked, System.toDaemon, Asks, AsksSuspend]
  · simp [PermittedOrBlocked, System.toDaemon, Asks, AsksSuspend, demoCommand]
  · refine ⟨fun _ _ => by decide, ?_, ?_⟩
    · simp [Asks, demoCommand]
    · simp [Asks, demoCommand]

/-- Nothing else stops it: the machine is suspended although the configuration does not allow
    it. -/
theorem forbidden_suspend_goes_through :
    ¬ ∀ (d₀ d : Daemon) (tr : List (Transition Daemon DaemonLabel)), Initial d₀ →
      Run Step d₀ tr d → ∀ x ∈ tr, HonoursPermissions x := by
  intro hclaim
  have hrun : Run Step demo (demoTrace (forbiddenThen [.suspend])) _ :=
    demoTrace_run (by decide)
  have hhonours := hclaim demo _ _ demo_initial hrun _
    (List.mem_cons_of_mem _ (List.mem_cons_of_mem _ (List.mem_singleton_self _)))
  have hquiet := (hhonours.1 rfl).quiet
  revert hquiet
  decide

end Daemon

end MitosSession
