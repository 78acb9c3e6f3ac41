import MitosSession.Daemon.Engage

set_option autoImplicit false

/-! # Sessions no password opens

A user without a usable password could never leave the lock screen, so `lock_session` and the idle
lock leave such a session alone. `power::suspend` does not ask, and neither does the `Unlock`
attempt that locks a session out. `Spares` is the condition that a step engages neither of the two
on such a session; `never_locked_iff` says that it is exactly what keeps a session without a
password from being locked, along every run. -/

namespace MitosSession

namespace Daemon

/-- The step locks no session whose user has no usable password. -/
def LeavesOpen (shadow : Option String) (x : Transition Daemon DaemonLabel) : Prop :=
  ∀ s, x.pre.standing.passwordless shadow s = true → x.pre.locks.isLocked s = false →
    x.post.locks.isLocked s = false

/-- `power::suspend` locks no session without a password that it finds unlocked. -/
def SuspendSpares (shadow : Option String) (d : Daemon) : Prop :=
  SuspendFinds d fun s =>
    d.standing.passwordless shadow s = true → d.locks.isLocked s = true

/-- What a step must not do to a session without a password. -/
def Spares (shadow : Option String) (d : Daemon) (env : Env) : DaemonEvent → Prop
  | .ipc (.command cmd) =>
    match cmd.request with
    | .unlock s userName password =>
      authorize env.userByName cmd.peer cmd.connId cmd.request d.sessions d.elevation = .ok () →
        d.standing.passwordless shadow s = true → d.locks.isLocked s = false →
        ¬ LastAttempt d env s userName password
    | .suspend => SuspendSpares shadow d
    | _ => True
  | .idleTick =>
    (∃ seatId, (seatId, .suspendRequested) ∈ d.stageChanges env.now) → SuspendSpares shadow d
  | _ => True

/-- The same for the steps of a run. -/
def SparesStep (shadow : Option String) (x : Transition Daemon DaemonLabel) : Prop :=
  match x.label with
  | .handled env event _ => Spares shadow x.pre env event
  | .rehash => True

variable {shadow : Option String} {d : Daemon} {env : Env} {s : SessionId}

theorem roster_of_passwordless (h : d.standing.passwordless shadow s = true) :
    ∃ session, d.sessions.roster s = some session := by
  simp only [Standing.passwordless, Option.any_eq_true] at h
  obtain ⟨session, hs, -⟩ := h
  exact ⟨session, hs⟩

theorem suspendSpares_iff (hreach : Reachable d) :
    SuspendSpares shadow d ↔
      ∀ s, d.standing.passwordless shadow s = true → d.locks.isLocked s = false →
        ¬ d.standing.SuspendLocks s := by
  rw [SuspendSpares, suspendFinds_iff fun s ctx hctx => hreach.ctx_id hctx]
  constructor
  · intro h s hs hopen hlocks
    obtain ⟨session, hsession⟩ := roster_of_passwordless hs
    rw [h s session hsession hlocks hs] at hopen
    cases hopen
  · intro h s session _ hlocks hs
    by_contra hopen
    exact h s hs (by simpa using hopen) hlocks

/-- The guard of the idle lock: it leaves a session without a password alone. -/
theorem stageLocks_passwordless {change : String × IdleStage}
    (hs : d.standing.passwordless shadow s = true) (h : d.standing.StageLocks shadow change s) :
    change.2 = .suspendRequested ∧ d.standing.SuspendLocks s := by
  rcases h with ⟨-, -, -, hpassword, -⟩ | hsuspend
  · rw [hs] at hpassword
    cases hpassword
  · exact hsuspend

theorem handle_leavesOpen_iff (hreach : Reachable d) (hshadow : env.shadow = shadow)
    (event : DaemonEvent) :
    (∀ s, d.standing.passwordless shadow s = true → d.locks.isLocked s = false →
        (d.handle env event).1.locks.isLocked s = false) ↔ Spares shadow d env event := by
  have hengages : (∀ s, d.standing.passwordless shadow s = true → d.locks.isLocked s = false →
      (d.handle env event).1.locks.isLocked s = false) ↔
      ∀ s, d.standing.passwordless shadow s = true → d.locks.isLocked s = false →
        ¬ Engages d env s event := by
    refine forall₃_congr fun s _ hopen => ?_
    rw [← handle_engages_iff hopen, Bool.not_eq_true]
  rw [hengages]
  match event with
  | .ipc (.connected connId peer outbox) => simp [Engages, Spares]
  | .ipc (.disconnected connId) => simp [Engages, Spares]
  | .ipc (.command cmd) =>
      simp only [Engages, Spares]
      cases hrequest : cmd.request with
      | lockSession k =>
          simp only [iff_true]
          rintro s hs - ⟨-, rfl, hpassword, -⟩
          rw [hshadow, hs] at hpassword
          cases hpassword
      | unlock k userName password =>
          simp only
          constructor
          · intro h hauth hs hopen hlast
            exact h k hs hopen ⟨hauth, rfl, hlast⟩
          · rintro h s hs hopen ⟨hauth, rfl, hlast⟩
            exact h hauth hs hopen hlast
      | suspend =>
          have hauth : authorize env.userByName cmd.peer cmd.connId .suspend d.sessions
              d.elevation = .ok () := authorize_open rfl
          simp only [hauth, true_and]
          exact (suspendSpares_iff hreach).symm
      | _ => simp
  | .idleTick =>
      simp only [Engages, Spares, hshadow]
      constructor
      · rintro h ⟨seatId, hchange⟩
        refine (suspendSpares_iff hreach).2 fun s hs hopen hlocks => ?_
        exact h s hs hopen ⟨_, hchange, Or.inr ⟨rfl, hlocks⟩⟩
      · rintro h s hs hopen ⟨⟨seatId, stage⟩, hmem, hstage⟩
        obtain ⟨rfl, hlocks⟩ := stageLocks_passwordless hs hstage
        exact (suspendSpares_iff hreach).1 (h ⟨seatId, hmem⟩) s hs hopen hlocks
  | .signal event => simp [Engages, Spares]

/-- **When a session no password opens is never locked.** Along every run with one `/etc/shadow`,
    no step locks a session whose user has no usable password, exactly if no suspend that goes
    through finds such a session unlocked, and no `Unlock` attempt on such a session that is not
    locked is a rejected last one. -/
theorem never_locked_iff {d₀ : Daemon} {tr : List (Transition Daemon DaemonLabel)}
    (hinit : Initial d₀) (hrun : Run Step d₀ tr d)
    (hshadow : ∀ x ∈ tr, ∀ env event effects, x.label = .handled env event effects →
      env.shadow = shadow) :
    (∀ x ∈ tr, LeavesOpen shadow x) ↔ ∀ x ∈ tr, SparesStep shadow x := by
  refine forall₂_congr fun x hx => ?_
  obtain ⟨⟨tr', hpre⟩, hstep⟩ := hrun.of_mem hx
  have hreach : Reachable x.pre := ⟨d₀, tr', hinit, hpre⟩
  have hfixed := hshadow x hx
  obtain ⟨pre, label, post⟩ := x
  change Step pre label post at hstep
  cases hstep with
  | handled env event => exact handle_leavesOpen_iff hreach (hfixed env event _ rfl) event
  | rehash hr =>
      simp only [LeavesOpen, SparesStep, iff_true]
      intro s _ hopen
      rw [hr.locks.isLocked_eq]
      exact hopen

section Example

/-- Alice's account has no password. -/
private def openEnv (now : Instant) : Env :=
  { demoEnv now with shadow := some "alice:!:19000:0:99999:7:::\n" }

/-- Her session gets its compositor, and then comes one more request. -/
private def openThen (request : Request) : List (Env × DaemonEvent) :=
  [demoConnect 7 1000,
    .ipc (.command (demoCommand 7 1000 (.createSession "alice" none none))),
    .ipc (.command (demoCommand 7 1000 request))].map fun event => (openEnv 0, event)

private theorem openThen_shadow (request : Request) :
    ∀ x ∈ demoTrace (openThen request), ∀ env event effects,
      x.label = .handled env event effects → env.shadow = (openEnv 0).shadow := by
  intro x hx env event effects hlabel
  simp only [demoTrace, openThen, List.map_cons, List.map_nil, System.transitions,
    System.toDaemon, List.mem_cons, List.not_mem_nil, or_false] at hx
  rcases hx with rfl | rfl | rfl
  all_goals
    simp only [DaemonLabel.handled.injEq] at hlabel
    obtain ⟨rfl, -, -⟩ := hlabel
    rfl

/-- A request to lock her session leaves it open. -/
theorem lock_request_refused :
    userHasPassword (openEnv 0).shadow "alice" = false
      ∧ ∀ x ∈ demoTrace (openThen (.lockSession 1)), LeavesOpen (openEnv 0).shadow x := by
  refine ⟨by decide,
    (never_locked_iff demo_initial (demoTrace_run (by decide)) (openThen_shadow _)).2 ?_⟩
  exact List.forall_mem_cons.2 ⟨trivial, List.forall_mem_cons.2 ⟨trivial,
    List.forall_mem_cons.2 ⟨trivial, List.forall_mem_nil _⟩⟩⟩

/-- A suspend locks her out of her own session. -/
theorem suspend_locks_passwordless :
    ¬ ∀ (shadow : Option String) (d₀ d : Daemon) (tr : List (Transition Daemon DaemonLabel)),
      Initial d₀ → Run Step d₀ tr d →
      (∀ x ∈ tr, ∀ env event effects, x.label = .handled env event effects →
        env.shadow = shadow) →
      ∀ x ∈ tr, LeavesOpen shadow x := by
  intro hclaim
  have hrun : Run Step demo (demoTrace (openThen .suspend)) _ := demoTrace_run (by decide)
  have hlast := hclaim _ _ _ _ demo_initial hrun (openThen_shadow _) _
    (List.mem_cons_of_mem _ (List.mem_cons_of_mem _ (List.mem_cons_self ..)))
  have hlocked := hlast 1 (by decide) (by decide)
  revert hlocked
  decide

end Example

end Daemon

end MitosSession
