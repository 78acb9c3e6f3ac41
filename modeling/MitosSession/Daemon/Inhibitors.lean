import MitosSession.Daemon.Tick

set_option autoImplicit false

/-! # What a `Block` inhibitor blocks

`held what tr` is the ledger of the `Block` inhibitors on `what` that were granted along a run and
not released. The registry agrees with it (`blocks_iff_held`), so an action comes back exactly with
the release of the last of them.

`Withheld` is what a held inhibitor promises of a step. The lock screen, the suspend and the
shutdown consult the registry, with one exception: the `Unlock` attempt that locks a session out
engages a lock without asking. `Idle` inhibitors are consulted nowhere. `Honoured` is the condition
on a step that neither matters, and `inhibitors_withhold_iff` says that it is exact. -/

namespace MitosSession

/-! ## The ledger -/

/-- The id of the inhibitor a reply grants. -/
def Effect.grantedId : Effect → Option ℕ
  | .send _ (.response (.inhibitGranted id)) _ => some id
  | _ => none

/-- The effect is the reply `Ok`. -/
def Effect.isOk : Effect → Bool
  | .send _ (.response .ok) _ => true
  | _ => false

namespace DaemonLabel

/-- The `Block` inhibitor on `what` the step granted. -/
def taken (what : InhibitWhat) (l : DaemonLabel) : List ℕ :=
  match l.command.map ManagerCommand.request with
  | some (.inhibit what' _ _ .block) =>
    if what' = what then l.effects.filterMap Effect.grantedId else []
  | _ => []

/-- The inhibitor the step released. -/
def released (l : DaemonLabel) : List ℕ :=
  match l.command.map ManagerCommand.request with
  | some (.releaseInhibit id) => if l.effects.any Effect.isOk then [id] else []
  | _ => []

end DaemonLabel

namespace InhibitorRegistry

theorem blocks_iff {self : InhibitorRegistry} {what : InhibitWhat} :
    self.blocks what = true ↔
      ∃ id i, self.inhibitors.lookup id = some i ∧ i.what = what ∧ i.mode = .block := by
  simp only [blocks, List.any_eq_true, Table.mem_values, decide_eq_true_eq]
  constructor
  · rintro ⟨i, ⟨id, hid⟩, hi⟩
    exact ⟨id, i, hid, hi⟩
  · rintro ⟨id, i, hid, hi⟩
    exact ⟨i, ⟨id, hid⟩, hi⟩

end InhibitorRegistry

namespace Daemon

variable {d d' d₀ : Daemon} {env : Env} {what : InhibitWhat}
  {tr : List (Transition Daemon DaemonLabel)}

/-- The `Block` inhibitors on `what` that were granted and not released, along a run. -/
def held (what : InhibitWhat) (tr : List (Transition Daemon DaemonLabel)) : List ℕ :=
  tr.foldl (fun held x =>
    (held ++ x.label.taken what).filter fun id => id ∉ x.label.released) []

theorem held_snoc (x : Transition Daemon DaemonLabel) :
    held what (tr ++ [x])
      = (held what tr ++ x.label.taken what).filter fun id => id ∉ x.label.released := by
  simp only [held, List.foldl_append, List.foldl_cons, List.foldl_nil]

/-- The ledger `ids` is what the registry holds, and ids are handed out in order. -/
structure Ledger (ids : InhibitWhat → List ℕ) (r : InhibitorRegistry) : Prop where
  mem_iff : ∀ what id, id ∈ ids what ↔
    ∃ i, r.inhibitors.lookup id = some i ∧ i.what = what ∧ i.mode = .block
  bound : ∀ id i, r.inhibitors.lookup id = some i → id ≤ r.nextId

variable {ids : InhibitWhat → List ℕ} {r : InhibitorRegistry}

theorem Ledger.add (h : Ledger ids r) (what' : InhibitWhat) (who why : String)
    (mode : InhibitMode) :
    Ledger (fun what => ids what ++ if mode = .block ∧ what' = what then [r.nextId + 1] else [])
      (r.add what' who why mode).1 := by
  have hfresh : r.inhibitors.lookup (r.nextId + 1) = none := by
    by_contra hsome
    obtain ⟨i, hi⟩ := Option.ne_none_iff_exists'.1 hsome
    exact Nat.not_succ_le_self _ (h.bound _ i hi)
  refine ⟨fun what id => ?_, fun id i hi => ?_⟩
  · simp only [InhibitorRegistry.add, Table.lookup_insert_eq, List.mem_append, h.mem_iff]
    by_cases hid : id = r.nextId + 1
    · subst hid
      simp only [hfresh, reduceCtorEq, false_and, exists_false, false_or, if_true,
        Option.some.injEq, exists_eq_left']
      split
      · rename_i hboth
        simp [hboth.1, hboth.2]
      · rename_i hnot
        simp only [List.not_mem_nil, false_iff, not_and]
        exact fun hwhat hmode => hnot ⟨hmode, hwhat⟩
    · rw [if_neg hid, or_iff_left]
      split <;> simp [hid]
  · simp only [InhibitorRegistry.add, Table.lookup_insert_eq] at hi ⊢
    split at hi
    · rename_i hid
      exact Nat.le_of_eq hid
    · exact Nat.le_succ_of_le (h.bound id i hi)

theorem Ledger.remove (h : Ledger ids r) (id : ℕ) :
    Ledger (fun what => (ids what).filter fun id' => id' ∉ [id])
      { r with inhibitors := r.inhibitors.erase id } := by
  refine ⟨fun what id' => ?_, fun id' i hi => ?_⟩
  · simp only [List.mem_filter, h.mem_iff, Table.lookup_erase_eq, List.mem_singleton,
      decide_eq_true_eq]
    by_cases hid : id' = id
    · simp [hid]
    · simp [hid]
  · simp only [Table.lookup_erase_eq] at hi
    split at hi
    · cases hi
    · exact h.bound id' i hi

theorem Ledger.keep (h : Ledger ids r) {ids' : InhibitWhat → List ℕ}
    (hids : ∀ what, ids' what = ids what) : Ledger ids' r := by
  rwa [funext hids]

/-- Only taking and releasing an inhibitor writes to the registry. -/
theorem handle_inhibitors_same {event : DaemonEvent}
    (htake : ∀ cmd what who why mode, event = .ipc (.command cmd) →
      cmd.request ≠ .inhibit what who why mode)
    (hrelease : ∀ cmd id, event = .ipc (.command cmd) → cmd.request ≠ .releaseInhibit id) :
    (d.handle env event).1.locks.inhibitors = d.locks.inhibitors := by
  have hst : ∀ st, Stands d env event st → st.inhibitors = d.locks.inhibitors := by
    intro st hst
    cases hst with
    | inhibited cmd hrequest => exact absurd hrequest (htake cmd _ _ _ _ rfl)
    | released cmd hrequest hheld => exact absurd hrequest (hrelease cmd _ rfl)
    | _ => rfl
  exact hst _ (handle_stands d env event)

theorem handle_inhibit (d : Daemon) (env : Env) {cmd : ManagerCommand} {who why : String}
    {mode : InhibitMode}
    (hrequest : cmd.request = .inhibit what who why mode) :
    d.handle env (.ipc (.command cmd))
      = ({ d with locks := { d.locks with
            inhibitors := (d.locks.inhibitors.add what who why mode).1 } },
          [d.registry.sendResponse cmd.connId
            (.inhibitGranted (d.locks.inhibitors.nextId + 1))]) := by
  refine (handle_authorized (authorize_open (by rw [hrequest]; rfl))).trans ?_
  rw [hrequest]
  rfl

theorem handle_releaseInhibit (d : Daemon) (env : Env) {cmd : ManagerCommand} {id : ℕ}
    (hrequest : cmd.request = .releaseInhibit id) :
    d.handle env (.ipc (.command cmd)) = match d.locks.inhibitors.inhibitors.lookup id with
      | some _ =>
        ({ d with locks := { d.locks with inhibitors := { d.locks.inhibitors with
            inhibitors := d.locks.inhibitors.inhibitors.erase id } } },
          [d.registry.sendResponse cmd.connId .ok])
      | none =>
        (d, [d.registry.sendResponse cmd.connId
          (.error (SessionError.unknownInhibitor id).display)]) := by
  refine (handle_authorized (authorize_open (by rw [hrequest]; rfl))).trans ?_
  rw [hrequest]
  simp only [dispatch, LockManager.releaseInhibitor, InhibitorRegistry.remove]
  cases d.locks.inhibitors.inhibitors.lookup id with
  | none => rfl
  | some i => rfl

theorem Ledger.handle (h : Ledger ids d.locks.inhibitors) (event : DaemonEvent) :
    let l := DaemonLabel.handled env event (d.handle env event).2
    Ledger (fun what => (ids what ++ l.taken what).filter fun id => id ∉ l.released)
      (d.handle env event).1.locks.inhibitors := by
  intro l
  by_cases htake : ∃ cmd what who why mode, event = .ipc (.command cmd)
      ∧ cmd.request = .inhibit what who why mode
  · obtain ⟨cmd, what', who, why, mode, rfl, hrequest⟩ := htake
    have hhandle := handle_inhibit d env hrequest
    have hreleased : l.released = [] := by
      simp [l, DaemonLabel.released, DaemonLabel.command, hrequest]
    have htaken : ∀ what, l.taken what
        = if mode = .block ∧ what' = what then [d.locks.inhibitors.nextId + 1] else [] := by
      intro what
      simp only [l, DaemonLabel.taken, DaemonLabel.command, Option.map_some, hrequest]
      cases mode with
      | delay => simp
      | block => simp [DaemonLabel.effects, hhandle, ConnRegistry.sendResponse, Effect.grantedId]
    rw [hhandle]
    refine (h.add what' who why mode).keep fun what => ?_
    simp [hreleased, htaken]
  · by_cases hrelease : ∃ cmd id, event = .ipc (.command cmd) ∧ cmd.request = .releaseInhibit id
    · obtain ⟨cmd, id, rfl, hrequest⟩ := hrelease
      have hhandle := handle_releaseInhibit d env hrequest
      have htaken : ∀ what, l.taken what = [] := by
        intro what
        simp [l, DaemonLabel.taken, DaemonLabel.command, hrequest]
      cases hheld : d.locks.inhibitors.inhibitors.lookup id with
      | some i =>
          simp only [hheld] at hhandle
          have hreleased : l.released = [id] := by
            simp [l, DaemonLabel.released, DaemonLabel.command, hrequest, DaemonLabel.effects,
              hhandle, ConnRegistry.sendResponse, Effect.isOk]
          rw [hhandle]
          exact (h.remove id).keep fun what => by rw [htaken, hreleased, List.append_nil]
      | none =>
          simp only [hheld] at hhandle
          have hreleased : l.released = [] := by
            simp [l, DaemonLabel.released, DaemonLabel.command, hrequest, DaemonLabel.effects,
              hhandle, ConnRegistry.sendResponse, Effect.isOk]
          rw [hhandle]
          exact h.keep fun what => by simp [htaken, hreleased]
    · rw [handle_inhibitors_same
        (fun cmd what who why mode hevent hrequest =>
          htake ⟨cmd, what, who, why, mode, hevent, hrequest⟩)
        fun cmd id hevent hrequest => hrelease ⟨cmd, id, hevent, hrequest⟩]
      refine h.keep fun what => ?_
      have htaken : l.taken what = [] := by
        unfold DaemonLabel.taken
        split
        · rename_i what' who why hmap
          obtain ⟨cmd, hcmd, hrequest⟩ := Option.map_eq_some_iff.1 hmap
          exact absurd ⟨cmd, _, _, _, _, DaemonLabel.event_of_command hcmd, hrequest⟩ htake
        · rfl
      have hreleased : l.released = [] := by
        unfold DaemonLabel.released
        split
        · rename_i id hmap
          obtain ⟨cmd, hcmd, hrequest⟩ := Option.map_eq_some_iff.1 hmap
          exact absurd ⟨cmd, _, DaemonLabel.event_of_command hcmd, hrequest⟩ hrelease
        · rfl
      simp [htaken, hreleased]

theorem run_ledger (hinit : Initial d₀) (hrun : Run Step d₀ tr d) :
    Ledger (fun what => held what tr) d.locks.inhibitors := by
  refine hrun.history (P := fun tr d => Ledger (fun what => held what tr) d.locks.inhibitors)
    ?_ ?_
  · obtain ⟨_, _, _, _, _, _, rfl⟩ := hinit.eq
    exact ⟨by simp [held], by simp⟩
  · intro tr d l d' _ hI hstep
    simp only [held_snoc]
    cases hstep with
    | handled env event => exact hI.handle event
    | rehash hr =>
        have hsame : Ledger (fun what => (held what tr ++ DaemonLabel.rehash.taken what).filter
            fun id => id ∉ DaemonLabel.rehash.released) d.locks.inhibitors :=
          hI.keep fun what => by
            simp [DaemonLabel.taken, DaemonLabel.released, DaemonLabel.command]
        refine ⟨fun what id => ?_, fun id i hi => ?_⟩
        · rw [hsame.mem_iff, hr.locks.inhibitors.inhibitors.lookup_eq]
        · rw [hr.locks.inhibitors.inhibitors.lookup_eq] at hi
          rw [hr.locks.inhibitors.nextId]
          exact hsame.bound id i hi

/-- **The registry agrees with the ledger**, whatever the order of takes and releases. -/
theorem blocks_iff_held (hinit : Initial d₀) (hrun : Run Step d₀ tr d) :
    d.locks.inhibitors.blocks what = true ↔ held what tr ≠ [] := by
  have hledger := run_ledger hinit hrun
  rw [InhibitorRegistry.blocks_iff, ne_eq, List.eq_nil_iff_forall_not_mem, not_forall_not]
  exact exists_congr fun id => (hledger.mem_iff what id).symm

/-! ## What a held inhibitor promises -/

/-- The step locks no session. -/
def LocksNone (x : Transition Daemon DaemonLabel) : Prop :=
  ∀ s, x.pre.locks.isLocked s = false → x.post.locks.isLocked s = false

/-- The step has no effect about the topic. -/
def Silent (topic : Topic) (x : Transition Daemon DaemonLabel) : Prop :=
  ∀ e ∈ x.label.effects, e.topic ≠ topic

/-- What a `Block` inhibitor promises of a step while it is held. -/
def Withheld (x : Transition Daemon DaemonLabel) : InhibitWhat → Prop
  | .idle => ∀ env effects, x.label = .handled env .idleTick effects →
    Silent .dim x ∧ Silent .suspend x ∧ LocksNone x
  | .lock => LocksNone x
  | .suspend => Silent .suspend x ∧ Silent .sleep x
    ∧ (∀ cmd, x.label.command = some cmd → cmd.request = .suspend → LocksNone x)
    -- what an idle tick still locks, it locks as idle
    ∧ ∀ env effects, x.label = .handled env .idleTick effects →
      ∀ s, x.pre.locks.isLocked s = false → x.post.locks.isLocked s = true →
        IdleLocked x.pre env s
  | .shutdown => Silent .reboot x ∧ Silent .poweroff x
    ∧ ∀ cmd, x.label.command = some cmd → cmd.request = .reboot ∨ cmd.request = .powerOff →
      x.post.sessions = x.pre.sessions

/-- An idle tick finds nothing to do: no screen to dim, no session to lock, no suspend to start. -/
structure TickQuiet (d : Daemon) (env : Env) : Prop where
  dim : ∀ seatId s, (seatId, .dimmed) ∈ d.stageChanges env.now →
    d.seats.activeSession seatId = .ok (some s) → d.compositorOf s = none
  lock : ∀ s, IdleLocked d env s → d.locks.isLocked s = true
  suspend : TickSuspends d env.now → d.locks.inhibitors.blocks .suspend = true

/-- What a step must not do while an inhibitor is held. -/
def Honoured (d : Daemon) (env : Env) : DaemonEvent → Prop
  | .idleTick => d.locks.inhibitors.blocks .idle = true → TickQuiet d env
  | .ipc (.command cmd) =>
    match cmd.request with
    | .unlock s userName password => d.locks.inhibitors.blocks .lock = true →
      authorize env.userByName cmd.peer cmd.connId cmd.request d.sessions d.elevation = .ok () →
        d.locks.isLocked s = false → ¬ LastAttempt d env s userName password
    | _ => True
  | _ => True

/-- The same for the steps of a run. -/
def HonouredStep (x : Transition Daemon DaemonLabel) : Prop :=
  match x.label with
  | .handled env event _ => Honoured x.pre env event
  | .rehash => True

/-- The transition an event makes. -/
def transition (d : Daemon) (env : Env) (event : DaemonEvent) : Transition Daemon DaemonLabel :=
  ⟨d, .handled env event (d.handle env event).2, (d.handle env event).1⟩

theorem locksNone_iff (event : DaemonEvent) :
    LocksNone (d.transition env event) ↔
      ∀ s, d.locks.isLocked s = false → ¬ Engages d env s event := by
  refine forall_congr' fun s => forall_congr' fun (hopen : d.locks.isLocked s = false) => ?_
  rw [← handle_engages_iff hopen, Bool.not_eq_true]
  rfl

/-- An event whose table does not list a topic has no effect about it. -/
theorem silent_of_notMem {event : DaemonEvent} {topic : Topic} (h : topic ∉ event.topics) :
    Silent topic (d.transition env event) := by
  rintro e he rfl
  exact h (handle_topics d env event e he)

theorem silent_iff {event : DaemonEvent} {topic : Topic} :
    Silent topic (d.transition env event) ↔
      ¬ ∃ e ∈ (d.handle env event).2, e.topic = topic := by
  simp only [Silent, transition, DaemonLabel.effects, not_exists, not_and]

/-! ## The suspend and the shutdown -/

theorem withheld_suspend (h : d.locks.inhibitors.blocks .suspend = true) (event : DaemonEvent) :
    Withheld (d.transition env event) .suspend := by
  have hnone : d.idleSuspend env = (d, []) := by
    simp only [idleSuspend, MitosSession.suspend, h, if_true]
  -- only a `Suspend` request and the tick can call the backend or tell anyone to prepare
  have hsilent : ∀ topic, topic = .suspend ∨ topic = .sleep →
      Silent topic (d.transition env event) := by
    intro topic htopic
    have hother : topic ∉ [Topic.prompt, .reply, .process] := by
      rcases htopic with rfl | rfl <;> decide
    by_cases hlisted : topic ∈ event.topics
    · rcases DaemonEvent.of_mem_topics hlisted hother with ⟨cmd, rfl, hmem⟩ | ⟨rfl, -⟩
      · obtain ⟨response, hhandle⟩ :=
          handle_suspend d env (Request.eq_suspend_of_topics hmem htopic)
        rw [silent_iff, hhandle, hnone]
        rcases htopic with rfl | rfl <;> simp [ConnRegistry.sendResponse, Effect.topic]
      · rintro e he rfl
        have habout := onIdleTick_about_of_blocked h e he
        rcases htopic with htopic | htopic <;> simp [htopic] at habout
    · exact silent_of_notMem hlisted
  have hnoLock : ∀ s, ¬ d.standing.SuspendLocks s := by
    rintro s ⟨hblocks, -⟩
    exact Bool.false_ne_true (hblocks.symm.trans h)
  refine ⟨hsilent .suspend (Or.inl rfl), hsilent .sleep (Or.inr rfl), ?_, ?_⟩
  · intro cmd hcmd hrequest
    obtain rfl : event = .ipc (.command cmd) := DaemonLabel.event_of_command hcmd
    refine (locksNone_iff _).2 fun s _ hengages => ?_
    simp only [Engages, hrequest] at hengages
    exact hnoLock s hengages.2
  · intro env' effects hlabel s hopen hlocked
    simp only [transition, DaemonLabel.handled.injEq] at hlabel
    obtain ⟨rfl, rfl, -⟩ := hlabel
    have hengages := (handle_engages_iff hopen .idleTick).1 hlocked
    obtain ⟨⟨seatId, stage⟩, hmem, ⟨rfl, hlocks⟩ | ⟨-, hlocks⟩⟩ := hengages
    · exact ⟨seatId, hmem, hlocks⟩
    · exact absurd hlocks (hnoLock s)

/-- A power transition goes through exactly if no inhibitor on the shutdown is held. -/
theorem handle_power (d : Daemon) (env : Env) {cmd : ManagerCommand}
    (hrequest : cmd.request = .reboot ∨ cmd.request = .powerOff) :
    ∃ response call, (call = .backendReboot ∧ cmd.request = .reboot
        ∨ call = .backendPoweroff ∧ cmd.request = .powerOff)
      ∧ d.handle env (.ipc (.command cmd)) =
        if d.locks.inhibitors.blocks .shutdown then
          (d, [d.registry.sendResponse cmd.connId response])
        else
          ({ d with sessions := d.sessions.terminateAll },
            waitForDelayers d.locks.inhibitors .shutdown
              (Duration.fromSecs d.settings.power.suspendInhibitGraceSecs)
              ++ [call] ++ [d.registry.sendResponse cmd.connId response]) := by
  have hopen : cmd.request.isOpen = true := by
    rcases hrequest with hrequest | hrequest <;>
    · rw [hrequest]
      rfl
  have hhandle : d.handle env (.ipc (.command cmd)) = _ :=
    handle_authorized (authorize_open hopen)
  rcases hrequest with hrequest | hrequest
  · refine ⟨unitResponse (MitosSession.reboot d.sessions d.locks
      (env.power d.powerBackend .reboot)
      (Duration.fromSecs d.settings.power.suspendInhibitGraceSecs)).2.2, .backendReboot,
      Or.inl ⟨rfl, hrequest⟩, hhandle.trans ?_⟩
    simp only [hrequest, dispatch, MitosSession.reboot]
    split <;> rfl
  · refine ⟨unitResponse (MitosSession.poweroff d.sessions d.locks
      (env.power d.powerBackend .poweroff)
      (Duration.fromSecs d.settings.power.suspendInhibitGraceSecs)).2.2, .backendPoweroff,
      Or.inr ⟨rfl, hrequest⟩, hhandle.trans ?_⟩
    simp only [hrequest, dispatch, MitosSession.poweroff]
    split <;> rfl

theorem withheld_shutdown (h : d.locks.inhibitors.blocks .shutdown = true)
    (event : DaemonEvent) : Withheld (d.transition env event) .shutdown := by
  have hblocked : ∀ {cmd : ManagerCommand}, cmd.request = .reboot ∨ cmd.request = .powerOff →
      ∃ response, d.handle env (.ipc (.command cmd))
        = (d, [d.registry.sendResponse cmd.connId response]) := by
    intro cmd hrequest
    obtain ⟨response, call, -, hhandle⟩ := handle_power d env hrequest
    exact ⟨response, by rw [hhandle, if_pos h]⟩
  have hsilent : ∀ topic, topic = .reboot ∨ topic = .poweroff →
      Silent topic (d.transition env event) := by
    intro topic htopic
    have hother : topic ∉ [Topic.prompt, .reply, .process] := by
      rcases htopic with rfl | rfl <;> decide
    by_cases hlisted : topic ∈ event.topics
    · rcases DaemonEvent.of_mem_topics hlisted hother with ⟨cmd, rfl, hmem⟩ | ⟨rfl, htick⟩
      · have hrequest : cmd.request = .reboot ∨ cmd.request = .powerOff := by
          rcases htopic with rfl | rfl
          · exact Or.inl (Request.eq_reboot_of_topics hmem)
          · exact Or.inr (Request.eq_powerOff_of_topics hmem)
        obtain ⟨response, hhandle⟩ := hblocked hrequest
        rw [silent_iff, hhandle]
        rcases htopic with rfl | rfl <;> simp [ConnRegistry.sendResponse, Effect.topic]
      -- a tick shuts nothing down
      · rcases htopic with rfl | rfl <;> simp at htick
    · exact silent_of_notMem hlisted
  refine ⟨hsilent .reboot (Or.inl rfl), hsilent .poweroff (Or.inr rfl), ?_⟩
  intro cmd hcmd hrequest
  obtain rfl : event = .ipc (.command cmd) := DaemonLabel.event_of_command hcmd
  obtain ⟨response, hhandle⟩ := hblocked hrequest
  simp only [transition, hhandle]

/-! ## The lock screen -/

theorem canLock_of_blocked (h : d.locks.inhibitors.blocks .lock = true) :
    d.standing.canLock = false := by
  simp [Standing.canLock, standing, h]

/-- A blocked lock screen is only engaged by the attempt that locks a session out. -/
theorem withheld_lock_iff (h : d.locks.inhibitors.blocks .lock = true) (event : DaemonEvent) :
    Withheld (d.transition env event) .lock ↔ ∀ cmd s userName password,
      event = .ipc (.command cmd) → cmd.request = .unlock s userName password →
      authorize env.userByName cmd.peer cmd.connId cmd.request d.sessions d.elevation = .ok () →
        d.locks.isLocked s = false → ¬ LastAttempt d env s userName password := by
  have hcan := canLock_of_blocked h
  have hsuspend : ∀ s, ¬ d.standing.SuspendLocks s := by
    rintro s ⟨-, -, hyes, -⟩
    exact Bool.false_ne_true (hcan.symm.trans hyes)
  refine (locksNone_iff event).trans ⟨fun hnone => ?_, fun hunlock s hopen hengages => ?_⟩
  · rintro cmd s userName password rfl hrequest hauth hopen hlast
    refine hnone s hopen ⟨hauth, ?_⟩
    simpa only [hrequest, true_and] using hlast
  · match event with
    | .ipc (.command cmd) =>
        obtain ⟨hauth, hmatch⟩ := hengages
        cases hrequest : cmd.request with
        | lockSession k =>
            simp only [hrequest] at hmatch
            exact Bool.false_ne_true (hcan.symm.trans hmatch.2.2)
        | unlock k userName password =>
            simp only [hrequest] at hmatch
            obtain ⟨rfl, hlast⟩ := hmatch
            exact hunlock cmd s userName password rfl hrequest hauth hopen hlast
        | suspend =>
            simp only [hrequest] at hmatch
            exact hsuspend s hmatch
        | _ => simp only [hrequest] at hmatch
    | .idleTick =>
        obtain ⟨change, -, ⟨-, -, -, -, hyes⟩ | ⟨-, hlocks⟩⟩ := hengages
        · exact Bool.false_ne_true (hcan.symm.trans hyes)
        · exact hsuspend s hlocks

/-! ## The idle tick -/

/-- What an `Idle` inhibitor promises holds of exactly the ticks that find nothing to do. -/
theorem withheld_idle_iff :
    Withheld (d.transition env .idleTick) .idle ↔ TickQuiet d env := by
  have hwithheld : Withheld (d.transition env .idleTick) .idle ↔
      Silent .dim (d.transition env .idleTick) ∧ Silent .suspend (d.transition env .idleTick)
        ∧ LocksNone (d.transition env .idleTick) := by
    constructor
    · exact fun h => h env _ rfl
    · exact fun h _ _ _ => h
  have hdim : Silent .dim (d.transition env .idleTick) ↔ ∀ seatId s,
      (seatId, .dimmed) ∈ d.stageChanges env.now → d.seats.activeSession seatId = .ok (some s) →
        d.compositorOf s = none := by
    refine silent_iff.trans ((not_congr onIdleTick_dims_iff).trans ?_)
    simp only [not_exists, not_and, Option.eq_none_iff_forall_ne_some]
    exact ⟨fun h seatId s hmem hs c => h seatId s c hmem hs,
      fun h seatId s c hmem hs => h seatId s hmem hs c⟩
  have hsuspend : Silent .suspend (d.transition env .idleTick) ↔
      (TickSuspends d env.now → d.locks.inhibitors.blocks .suspend = true) := by
    refine silent_iff.trans ((not_congr onIdleTick_suspends_iff).trans ?_)
    rw [not_and, Bool.not_eq_false]
  rw [hwithheld, hdim, hsuspend, locksNone_iff]
  constructor
  · rintro ⟨hdim, hsuspend, hlocks⟩
    refine ⟨hdim, fun s hidle => ?_, hsuspend⟩
    obtain ⟨seatId, hmem, hlocked⟩ := hidle
    by_contra hopen
    exact hlocks s (by simpa using hopen) ⟨_, hmem, Or.inl ⟨rfl, hlocked⟩⟩
  · intro hquiet
    refine ⟨hquiet.dim, hquiet.suspend, fun s hopen hengages => ?_⟩
    obtain ⟨⟨seatId, stage⟩, hmem, ⟨rfl, hlocks⟩ | ⟨rfl, hlocks⟩⟩ := hengages
    · exact Bool.false_ne_true (hopen.symm.trans (hquiet.lock s ⟨seatId, hmem, hlocks⟩))
    · exact Bool.false_ne_true (hlocks.1.symm.trans (hquiet.suspend ⟨seatId, hmem⟩))

/-! ## Whole runs -/

theorem handle_withheld_iff (event : DaemonEvent) :
    (∀ what, d.locks.inhibitors.blocks what = true → Withheld (d.transition env event) what) ↔
      Honoured d env event := by
  constructor
  · intro h
    match event with
    | .idleTick => exact fun hidle => withheld_idle_iff.1 (h .idle hidle)
    | .ipc (.command cmd) =>
        simp only [Honoured]
        split
        · rename_i s userName password hrequest
          exact fun hlock => (withheld_lock_iff hlock _).1 (h .lock hlock) cmd s userName password
            rfl hrequest
        · trivial
    | .ipc (.connected _ _ _) | .ipc (.disconnected _) | .signal _ => trivial
  · intro h what hblocks
    cases what with
    | idle =>
        intro env' effects hlabel
        simp only [transition, DaemonLabel.handled.injEq] at hlabel
        obtain ⟨rfl, rfl, -⟩ := hlabel
        exact withheld_idle_iff.2 (h hblocks) env _ rfl
    | lock =>
        refine (withheld_lock_iff hblocks event).2 ?_
        rintro cmd s userName password rfl hrequest hauth
        simp only [Honoured, hrequest] at h
        exact h hblocks (hrequest ▸ hauth)
    | suspend => exact withheld_suspend hblocks event
    | shutdown => exact withheld_shutdown hblocks event

/-- What comes back, with `ids` the ledger: each action goes through exactly if no inhibitor on it
    is held. (A tick that finds something to do does it, inhibited or not.) -/
structure Released (d : Daemon) (ids : InhibitWhat → List ℕ) : Prop where
  idle : ∀ env, ids .idle = [] → ¬ TickQuiet d env → ¬ Withheld (d.transition env .idleTick) .idle
  lock : ∀ env cmd s, cmd.request = .lockSession s →
    authorize env.userByName cmd.peer cmd.connId cmd.request d.sessions d.elevation = .ok () →
    d.settings.lock.enabled = true → d.standing.passwordless env.shadow s = false →
    d.locks.isLocked s = false →
      ((d.handle env (.ipc (.command cmd))).1.locks.isLocked s = true ↔ ids .lock = [])
  suspend : ∀ env cmd, cmd.request = .suspend →
    ((∃ e ∈ (d.handle env (.ipc (.command cmd))).2, e.topic = .suspend) ↔ ids .suspend = [])
  reboot : ∀ env cmd, cmd.request = .reboot →
    ((∃ e ∈ (d.handle env (.ipc (.command cmd))).2, e.topic = .reboot) ↔ ids .shutdown = [])
  poweroff : ∀ env cmd, cmd.request = .powerOff →
    ((∃ e ∈ (d.handle env (.ipc (.command cmd))).2, e.topic = .poweroff) ↔ ids .shutdown = [])

theorem released (h : ∀ what, d.locks.inhibitors.blocks what = true ↔ ids what ≠ []) :
    Released d ids := by
  have hfree : ∀ what, d.locks.inhibitors.blocks what = false ↔ ids what = [] := by
    intro what
    rw [← Bool.not_eq_true, h, not_not]
  have hcalled : ∀ env cmd topic, cmd.request = .reboot ∧ topic = .reboot
      ∨ cmd.request = .powerOff ∧ topic = .poweroff →
      ((∃ e ∈ (d.handle env (.ipc (.command cmd))).2, e.topic = topic) ↔
        ids .shutdown = []) := by
    intro env cmd topic hboth
    obtain ⟨response, call, hcall, hhandle⟩ := handle_power d env (hboth.imp And.left And.left)
    have htopic : call.topic = topic := by
      rcases hboth with ⟨hr, rfl⟩ | ⟨hr, rfl⟩ <;> rcases hcall with ⟨rfl, hr'⟩ | ⟨rfl, hr'⟩ <;>
        first | rfl | (rw [hr] at hr'; cases hr')
    have hreply : topic ≠ .reply := by
      rcases hboth with ⟨-, rfl⟩ | ⟨-, rfl⟩ <;> simp
    rw [← hfree, hhandle]
    cases d.locks.inhibitors.blocks .shutdown with
    | true => simpa [ConnRegistry.sendResponse, Effect.topic] using hreply.symm
    | false =>
        simp only [Bool.false_eq_true, if_false, iff_true]
        exact ⟨call, by simp, htopic⟩
  refine ⟨fun env _ hbusy hwithheld => hbusy (withheld_idle_iff.1 hwithheld), ?_, ?_,
    fun env cmd hr => hcalled env cmd _ (Or.inl ⟨hr, rfl⟩),
    fun env cmd hr => hcalled env cmd _ (Or.inr ⟨hr, rfl⟩)⟩
  · intro env cmd s hrequest hauth henabled hpassword hopen
    rw [handle_engages_iff hopen, ← hfree]
    simp only [hrequest] at hauth
    simp only [Engages, hrequest, hauth, true_and, hpassword]
    simp only [Standing.canLock, standing, henabled, Bool.true_and, Bool.not_eq_true']
  · intro env cmd hrequest
    obtain ⟨response, hhandle⟩ := handle_suspend d env hrequest
    have hcalls : (∃ e ∈ (d.idleSuspend env).2, e.topic = .suspend) ↔ _ :=
      idleSuspend_suspends_iff
    rw [hhandle, ← hfree, ← hcalls]
    have hreply : (d.registry.sendResponse cmd.connId response).topic ≠ .suspend := by
      simp [ConnRegistry.sendResponse, Effect.topic]
    simp only [List.mem_append, List.mem_singleton, or_and_right, exists_or, exists_eq_left,
      hreply, or_false]

/-- **When `Block` inhibitors block.** Along every run, every held inhibitor keeps its promise at
    every step, exactly if every step honours the inhibitors held: while one on `Idle` is held,
    ticks find nothing to do, and while one on the lock screen is held, no `Unlock` attempt on a
    session that is not locked is a rejected last one. And after every run, what is held is what
    was granted and not released, and each action comes back exactly with the last release. -/
theorem inhibitors_withhold_iff (hinit : Initial d₀) (hrun : Run Step d₀ tr d) :
    ((∀ x ∈ tr, ∀ what, x.pre.locks.inhibitors.blocks what = true → Withheld x what) ↔
      ∀ x ∈ tr, HonouredStep x)
    ∧ (∀ what, d.locks.inhibitors.blocks what = true ↔ held what tr ≠ [])
    ∧ Released d fun what => held what tr := by
  have hheld : ∀ what, d.locks.inhibitors.blocks what = true ↔ held what tr ≠ [] :=
    fun what => blocks_iff_held hinit hrun
  refine ⟨forall₂_congr fun x hx => ?_, hheld, released hheld⟩
  obtain ⟨-, hstep⟩ := hrun.of_mem hx
  obtain ⟨pre, label, post⟩ := x
  change Step pre label post at hstep
  cases hstep with
  | handled env event => exact handle_withheld_iff event
  | rehash hr =>
      refine iff_of_true (fun what _ => ?_) trivial
      have hlocks : LocksNone ⟨pre, .rehash, post⟩ := fun s hopen =>
        (hr.locks.isLocked_eq s).trans hopen
      have hsilent : ∀ topic, Silent topic ⟨pre, .rehash, post⟩ := fun topic e he => by
        simp [DaemonLabel.effects] at he
      cases what with
      | idle => exact fun env effects hlabel => DaemonLabel.noConfusion hlabel
      | lock => exact hlocks
      | suspend =>
          refine ⟨hsilent _, hsilent _, fun cmd hcmd => ?_, fun env effects hlabel => ?_⟩
          · cases hcmd
          · cases hlabel
      | shutdown =>
          refine ⟨hsilent _, hsilent _, fun cmd hcmd => ?_⟩
          cases hcmd

section Example

/-- A film is played in Alice's session, and somebody asks to lock it. -/
private def filmThenLock : List (Env × DaemonEvent) :=
  demoThen [(demoEnv 0, .ipc (.command (demoCommand 7 1000
      (.inhibit .lock "mpv" "playing a film" .block)))),
    (demoEnv 0, .ipc (.command (demoCommand 7 1000 (.lockSession 1))))]

/-- The film keeps the lock screen away. -/
theorem film_keeps_unlocked :
    (System.demo.replay filmThenLock).daemon.locks.isLocked 1 = false
      ∧ ∀ x ∈ demoTrace filmThenLock, ∀ what,
        x.pre.locks.inhibitors.blocks what = true → Withheld x what := by
  refine ⟨by decide, (inhibitors_withhold_iff demo_initial (demoTrace_run (by decide))).1.2 ?_⟩
  exact List.forall_mem_cons.2 ⟨trivial, List.forall_mem_cons.2 ⟨trivial,
    List.forall_mem_cons.2 ⟨trivial, List.forall_mem_cons.2 ⟨trivial,
      List.forall_mem_cons.2 ⟨trivial, List.forall_mem_nil _⟩⟩⟩⟩⟩

/-- An inhibitor on `Idle` does not: after five minutes the tick locks the session. -/
theorem idle_inhibitor_ignored :
    ¬ ∀ (d₀ d : Daemon) (tr : List (Transition Daemon DaemonLabel)), Initial d₀ →
      Run Step d₀ tr d → ∀ x ∈ tr, ∀ what,
        x.pre.locks.inhibitors.blocks what = true → Withheld x what := by
  intro hclaim
  have hrun : Run Step demo (demoTrace (demoThen
      [(demoEnv 0, .ipc (.command (demoCommand 7 1000 (.reportActivity "seat0")))),
        (demoEnv 0, .ipc (.command (demoCommand 7 1000
          (.inhibit .idle "mpv" "playing a film" .block)))),
        (demoEnv (Duration.fromSecs 301), .idleTick)])) _ := demoTrace_run (by decide)
  have hlast := hclaim _ _ _ demo_initial hrun _
    (List.mem_of_getElem? (i := 5) rfl) .idle (by decide)
  have hlocked := (hlast _ _ rfl).2.2 1 (by decide)
  revert hlocked
  decide

end Example

end Daemon

end MitosSession
