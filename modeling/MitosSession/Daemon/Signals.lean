import MitosSession.Daemon.Children

set_option autoImplicit false

/-! # Signals and children that exit

The daemon learns that a child exited from `SIGCHLD`, which the kernel keeps pending as one bit:
several children that exit before the daemon reads its `signalfd` make one signal. So one
`SIGCHLD` has to be answered by waiting for children until none is left (`reap_children`), while
further ones may exit between two iterations of that loop.

`Host` runs the daemon at that grain: signals are raised and children exit at any point, also in
the middle of `reap_children`. `runs_supervised` says that it does nothing that `Supervised` does
not do, one event for each call of `reap_children`; `signals_lose_no_child` that no child that
exited is forgotten. -/

namespace MitosSession

open Processes

/-! ## `signals/handlers.rs` -/

/-- A signal number. -/
inductive Signal where
  | sigterm
  | sigint
  | sighup
  | sigchld
  | other (number : ℕ)
deriving DecidableEq

namespace Signal

/-- `signals::SignalEvent`. -/
inductive Intent where
  | terminate
  | reloadConfig
  | reapChildren
deriving DecidableEq

/-- `signals::WATCHED`. -/
def watched : List Signal :=
  [.sigterm, .sigint, .sighup, .sigchld]

/-- `signals::classify`. -/
def classify : Signal → Option Intent
  | .sigterm => some .terminate
  | .sigint => some .terminate
  | .sighup => some .reloadConfig
  | .sigchld => some .reapChildren
  | .other _ => none

theorem mem_watched_iff {signal : Signal} : signal ∈ watched ↔ signal.classify.isSome = true := by
  cases signal <;> simp [watched, classify]

end Signal

/-! ## The daemon under the kernel's signals -/

/-- The daemon's process as the kernel sees it. -/
structure Host where
  daemon : Daemon
  children : Children Pid SessionId
  /-- The children that have exited and have not been waited for. -/
  exited : Pid → Bool
  pending : Signal → Bool
  /-- The daemon is inside `reap_children`. -/
  reaping : Bool

inductive HostLabel where
  /-- A message or an idle tick is handled; a child that is killed may raise `SIGCHLD`. -/
  | handled (env : Env) (event : DaemonEvent) (raised : Bool)
  /-- A signal is read that makes the daemon handle `event`. -/
  | delivered (env : Env) (signal : Signal) (event : DaemonEvent) (raised : Bool)
  /-- A signal is read that makes the daemon run `reap_children`. -/
  | woken (signal : Signal)
  /-- `waitpid` reports a child. -/
  | reaped (child : Daemon.ReapedChild)
  /-- `waitpid` has nothing to report: `reap_children` returns. -/
  | drained (env : Env)
  | exits (pid : Pid)
  | raised (signal : Signal)
  | forked (pid : Pid)
  | rehash

namespace Host

/-- Not a signal. -/
def isQuiet : DaemonEvent → Bool
  | .signal _ => false
  | _ => true

/-- The process an operation is about. -/
def target : ChildOp → Pid
  | .spawned pid _ => pid
  | .killed pid => pid
  | .reaped pid => pid

/-- The children that have exited and are still to be waited for, after some operations. -/
def stillExited (exited : Pid → Bool) (ops : List ChildOp) : Pid → Bool :=
  ops.foldl (fun exited op => Function.update exited (target op) false) exited

theorem stillExited_le (exited : Pid → Bool) (ops : List ChildOp) {p : Pid}
    (h : stillExited exited ops p = true) : exited p = true := by
  induction ops generalizing exited with
  | nil => exact h
  | cons op rest ih =>
      have hrest : Function.update exited (target op) false p = true := ih _ h
      by_cases hp : p = target op
      · rw [hp, Function.update_self] at hrest
        cases hrest
      · rwa [Function.update_of_ne hp] at hrest

/-- `SIGCHLD` becomes pending, or not. -/
def chld (pending : Signal → Bool) (raised : Bool) : Signal → Bool :=
  if raised then Function.update pending .sigchld true else pending

/-- Handle an event with its operations. A child that is killed may raise `SIGCHLD` as it dies,
    though the daemon waits for it at once. -/
def after (host : Host) (env : Env) (event : DaemonEvent) (raised : Bool) : Host :=
  { host with
    daemon := (host.daemon.handle env event).1
    children := Processes.after host.children (host.daemon.ops env event)
    exited := stillExited host.exited (host.daemon.ops env event)
    pending := chld host.pending raised }

/-- What can happen next. The first five are the daemon's, which reads no signal and handles no
    event while it is inside `reap_children`. -/
inductive Step : Host → HostLabel → Host → Prop
  | handled (host : Host) (env : Env) (event : DaemonEvent) (raised : Bool)
      (hidle : host.reaping = false) (hquiet : isQuiet event = true)
      (hpossible : Possible host.children (host.daemon.ops env event)) :
      Step host (.handled env event raised) (host.after env event raised)
  | terminated (host : Host) (env : Env) (signal : Signal) (raised : Bool)
      (hidle : host.reaping = false) (hpending : host.pending signal = true)
      (hintent : signal.classify = some .terminate)
      (hpossible : Possible host.children (host.daemon.ops env (.signal .terminate))) :
      Step host (.delivered env signal (.signal .terminate) raised)
        ({ host with pending := Function.update host.pending signal false }.after env
          (.signal .terminate) raised)
  | reloaded (host : Host) (env : Env) (signal : Signal)
      (hidle : host.reaping = false) (hpending : host.pending signal = true)
      (hintent : signal.classify = some .reloadConfig) :
      Step host (.delivered env signal (.signal .reloadConfig) false)
        ({ host with pending := Function.update host.pending signal false }.after env
          (.signal .reloadConfig) false)
  | woken (host : Host) (signal : Signal)
      (hidle : host.reaping = false) (hpending : host.pending signal = true)
      (hintent : signal.classify = some .reapChildren) :
      Step host (.woken signal)
        { host with pending := Function.update host.pending signal false, reaping := true }
  | reaped (host : Host) (child : Daemon.ReapedChild)
      (hreaping : host.reaping = true) (hexited : host.exited child.pid = true)
      (hpossible : Possible host.children (host.daemon.exitOps child)) :
      Step host (.reaped child)
        { host with
          daemon := (host.daemon.handleCompositorExit child).1
          children := Processes.after host.children (host.daemon.exitOps child)
          exited := stillExited host.exited (host.daemon.exitOps child) }
  | drained (host : Host) (env : Env)
      (hreaping : host.reaping = true) (hnone : ∀ pid, host.exited pid = false) :
      Step host (.drained env) { host with reaping := false }
  | exits (host : Host) (pid : Pid) (halive : (host.children pid).isSome = true)
      (hrunning : host.exited pid = false) :
      Step host (.exits pid)
        { host with
          exited := Function.update host.exited pid true
          pending := Function.update host.pending .sigchld true }
  | raised (host : Host) (signal : Signal) (hwatched : signal ∈ Signal.watched) :
      Step host (.raised signal)
        { host with pending := Function.update host.pending signal true }
  | forked (host : Host) (pid : Pid) (hidle : host.reaping = false)
      (hfree : host.children pid = none) :
      Step host (.forked pid)
        { host with children := Function.update host.children pid (some .other) }
  | rehash (host : Host) {d' : Daemon} (hidle : host.reaping = false)
      (h : Daemon.Rehash host.daemon d') :
      Step host .rehash { host with daemon := d' }

/-- Startup: no signal is pending, and no child is a session's. -/
def Initial (host : Host) : Prop :=
  Daemon.Initial host.daemon ∧ (∀ p s, host.children p ≠ some (.key s))
    ∧ (∀ p, host.exited p = false) ∧ (∀ signal, host.pending signal = false)
    ∧ host.reaping = false

/-! ## One event for each call of `reap_children` -/

/-- The events handled so far, and the children that the call of `reap_children` the daemon is in
    has waited for. -/
abbrev Story := List (Env × DaemonEvent) × List Daemon.ReapedChild

/-- A step told as part of the story. -/
def tell (story : Story) : HostLabel → Story
  | .handled env event _ => (story.1 ++ [(env, event)], story.2)
  | .delivered env _ event _ => (story.1 ++ [(env, event)], story.2)
  | .woken _ => (story.1, [])
  | .reaped child => (story.1, story.2 ++ [child])
  | .drained env => (story.1 ++ [(env, .signal (.reapChildren story.2))], [])
  | _ => story

/-- The story of a run. -/
def story (tr : List (Transition Host HostLabel)) : Story :=
  tr.foldl (fun story x => tell story x.label) ([], [])

theorem story_concat (tr : List (Transition Host HostLabel)) (x : Transition Host HostLabel) :
    story (tr ++ [x]) = tell (story tr) x.label := by
  simp only [story, List.foldl_append, List.foldl_cons, List.foldl_nil]

/-- How many session ids a run spends. -/
def idsSpent (tr : List (Transition Host HostLabel)) : ℕ :=
  tr.countP fun x => x.post.daemon.sessions.nextId ≠ x.pre.daemon.sessions.nextId

theorem idsSpent_concat (tr : List (Transition Host HostLabel)) (x : Transition Host HostLabel) :
    idsSpent (tr ++ [x]) = idsSpent tr
      + if x.post.daemon.sessions.nextId ≠ x.pre.daemon.sessions.nextId then 1 else 0 := by
  simp only [idsSpent, List.countP_append, List.countP_singleton, decide_eq_true_eq]

end Host

/-- The event of a step. -/
def SupervisedLabel.event : SupervisedLabel → Option (Env × DaemonEvent)
  | .daemon (.handled env event _) => some (env, event)
  | _ => none

namespace Host

/-- The supervised daemon at the end of `trace` has told the same story, except for the children
    that the current call of `reap_children` has waited for. -/
structure Follows (host₀ : Host) (tr : List (Transition Host HostLabel)) (host : Host)
    (trace : List (Transition Supervised SupervisedLabel)) (sys : Supervised) : Prop where
  run : Run Supervised.Step { daemon := host₀.daemon, children := host₀.children } trace sys
  events : trace.filterMap (fun x => x.label.event) = (story tr).1
  ids : Supervised.idsSpent trace ≤ idsSpent tr
  idle : host.reaping = false → (story tr).2 = []
  possible : Possible sys.children (forEach Daemon.reapNext sys.daemon (story tr).2).2
  daemon : host.daemon = (forEach Daemon.reapNext sys.daemon (story tr).2).1
  children :
    host.children = Processes.after sys.children
      (forEach Daemon.reapNext sys.daemon (story tr).2).2

variable {host₀ host host' : Host} {tr : List (Transition Host HostLabel)} {l : HostLabel}
  {trace : List (Transition Supervised SupervisedLabel)} {sys sys' : Supervised}

theorem Follows.here (h : Follows host₀ tr host trace sys) (hidle : host.reaping = false) :
    host.daemon = sys.daemon ∧ host.children = sys.children := by
  have hdaemon := h.daemon
  have hchildren := h.children
  rw [h.idle hidle] at hdaemon hchildren
  exact ⟨hdaemon, hchildren⟩

/-- A step that the supervised daemon does not notice. -/
theorem Follows.stay (h : Follows host₀ tr host trace sys)
    (htell : tell (story tr) l = story tr) (hdaemon : host'.daemon = host.daemon)
    (hchildren : host'.children = host.children)
    (hreaping : host'.reaping = false → host.reaping = false) :
    Follows host₀ (tr ++ [⟨host, l, host'⟩]) host' trace sys where
  run := h.run
  events := by
    rw [story_concat, htell]
    exact h.events
  ids := by
    rw [idsSpent_concat]
    exact h.ids.trans (Nat.le_add_right ..)
  idle hidle := by
    rw [story_concat, htell]
    exact h.idle (hreaping hidle)
  possible := by
    rw [story_concat, htell]
    exact h.possible
  daemon := by
    rw [story_concat, htell, hdaemon]
    exact h.daemon
  children := by
    rw [story_concat, htell, hchildren]
    exact h.children

/-- A step that the supervised daemon takes too, in no call of `reap_children`. -/
theorem Follows.step {l' : SupervisedLabel} (h : Follows host₀ tr host trace sys)
    (hidle : host.reaping = false) (hstep : Supervised.Step sys l' sys')
    (htell : tell (story tr) l = ((story tr).1 ++ l'.event.toList, (story tr).2))
    (hdaemon : host'.daemon = sys'.daemon) (hchildren : host'.children = sys'.children) :
    Follows host₀ (tr ++ [⟨host, l, host'⟩]) host' (trace ++ [⟨sys, l', sys'⟩]) sys' where
  run := h.run.snoc hstep
  events := by
    rw [List.filterMap_append, h.events, story_concat, htell]
    cases hevent : l'.event <;> simp [hevent]
  ids := by
    rw [Supervised.idsSpent_concat, idsSpent_concat]
    simp only [(h.here hidle).1, hdaemon]
    exact Nat.add_le_add_right h.ids _
  idle _ := by
    rw [story_concat, htell]
    exact h.idle hidle
  possible := by
    rw [story_concat, htell, h.idle hidle]
    exact trivial
  daemon := by
    rw [story_concat, htell, h.idle hidle]
    exact hdaemon
  children := by
    rw [story_concat, htell, h.idle hidle]
    exact hchildren

/-- An iteration of `reap_children`. -/
theorem Follows.reaped {child : Daemon.ReapedChild}
    (h : Follows host₀ tr host trace sys) (hreaping : host.reaping = true)
    (hpossible : Possible host.children (host.daemon.exitOps child))
    (hdaemon : host'.daemon = (host.daemon.handleCompositorExit child).1)
    (hchildren : host'.children = Processes.after host.children (host.daemon.exitOps child))
    (hreaping' : host'.reaping = host.reaping) :
    Follows host₀ (tr ++ [⟨host, .reaped child, host'⟩]) host' trace sys := by
  have htell : story (tr ++ [⟨host, .reaped child, host'⟩])
      = ((story tr).1, (story tr).2 ++ [child]) := by
    rw [story_concat]
    rfl
  have hops : (forEach Daemon.reapNext sys.daemon ((story tr).2 ++ [child])).2
      = (forEach Daemon.reapNext sys.daemon (story tr).2).2 ++ host.daemon.exitOps child := by
    rw [forEach_concat, h.daemon]
    rfl
  constructor
  · exact h.run
  · rw [htell]
    exact h.events
  · rw [idsSpent_concat]
    exact h.ids.trans (Nat.le_add_right ..)
  · intro hidle
    rw [hreaping', hreaping] at hidle
    cases hidle
  · rw [htell, hops, possible_append, ← h.children]
    exact ⟨h.possible, hpossible⟩
  · rw [htell, forEach_concat, ← h.daemon]
    exact hdaemon
  · rw [htell, hops, after_append, ← h.children]
    exact hchildren

/-- `reap_children` returns: the supervised daemon handles one event. -/
theorem Follows.drained (env : Env) (host' : Host) (h : Follows host₀ tr host trace sys)
    (hdaemon : host'.daemon = host.daemon) (hchildren : host'.children = host.children) :
    ∃ l' sys', Follows host₀ (tr ++ [⟨host, .drained env, host'⟩]) host'
      (trace ++ [⟨sys, l', sys'⟩]) sys' := by
  have htell : story (tr ++ [⟨host, .drained env, host'⟩])
      = ((story tr).1 ++ [(env, .signal (.reapChildren (story tr).2))], []) := by
    rw [story_concat]
    rfl
  have hevolves : Daemon.Evolves none sys.daemon _ (sys.daemon.reapChildren (story tr).2).1 :=
    (Daemon.reapChildren_acts (story tr).2).evolves
  refine ⟨_, _, h.run.snoc (Supervised.Step.handled sys env
    (.signal (.reapChildren (story tr).2)) h.possible), ?_, ?_, ?_, ?_, ?_, ?_⟩
  · rw [List.filterMap_append, h.events, htell]
    rfl
  · rw [Supervised.idsSpent_concat, idsSpent_concat]
    refine Nat.add_le_add h.ids (Eq.trans_le ?_ (Nat.zero_le _))
    exact if_neg (not_not_intro hevolves.1)
  · intro _
    rw [htell]
  · rw [htell]
    exact trivial
  · rw [htell, hdaemon, h.daemon, Daemon.reapNext_fst]
    rfl
  · rw [htell, hchildren, h.children]
    rfl

theorem exists_follows (hrun : Run Step host₀ tr host) :
    ∃ trace sys, Follows host₀ tr host trace sys := by
  refine hrun.history (P := fun tr host => ∃ trace sys, Follows host₀ tr host trace sys) ?_ ?_
  · exact ⟨[], _, Run.nil, rfl, Nat.le_refl 0, fun _ => rfl, trivial, rfl, rfl⟩
  · rintro tr host l host' - ⟨trace, sys, h⟩ hstep
    cases hstep with
    | handled env event raised hidle hquiet hpossible =>
        obtain ⟨hdaemon, hchildren⟩ := h.here hidle
        rw [hdaemon, hchildren] at hpossible
        refine ⟨_, _, h.step hidle (Supervised.Step.handled sys env event hpossible) rfl ?_ ?_⟩
        · simp only [after, hdaemon]
        · simp only [after, hdaemon, hchildren]
    | terminated env signal raised hidle hpending hintent hpossible =>
        obtain ⟨hdaemon, hchildren⟩ := h.here hidle
        rw [hdaemon, hchildren] at hpossible
        refine ⟨_, _, h.step hidle (Supervised.Step.handled sys env _ hpossible) rfl ?_ ?_⟩
        · simp only [after, hdaemon]
        · simp only [after, hdaemon, hchildren]
    | reloaded env signal hidle hpending hintent =>
        obtain ⟨hdaemon, hchildren⟩ := h.here hidle
        refine ⟨_, _, h.step hidle (Supervised.Step.handled sys env (.signal .reloadConfig) trivial)
          rfl ?_ ?_⟩
        · simp only [after, hdaemon]
        · simp only [after, hdaemon, hchildren]
    | woken signal hidle hpending hintent =>
        refine ⟨_, _, h.stay ?_ rfl rfl nofun⟩
        -- nothing was waited for yet
        rw [tell, ← h.idle hidle]
    | reaped child hreaping hexited hpossible =>
        exact ⟨_, _, h.reaped hreaping hpossible rfl rfl rfl⟩
    | drained env hreaping hnone =>
        obtain ⟨l', sys', h'⟩ := h.drained env { host with reaping := false } rfl rfl
        exact ⟨_, _, h'⟩
    | exits pid halive hrunning => exact ⟨_, _, h.stay rfl rfl rfl id⟩
    | raised signal hwatched => exact ⟨_, _, h.stay rfl rfl rfl id⟩
    | forked pid hidle hfree =>
        obtain ⟨hdaemon, hchildren⟩ := h.here hidle
        rw [hchildren] at hfree
        refine ⟨_, _, h.step hidle (Supervised.Step.forked sys pid hfree) ?_ hdaemon ?_⟩
        · exact Prod.ext (List.append_nil _).symm rfl
        · rw [hchildren]
    | rehash hidle hrehash =>
        obtain ⟨hdaemon, hchildren⟩ := h.here hidle
        rw [hdaemon] at hrehash
        refine ⟨_, _, h.step hidle (Supervised.Step.rehash sys hrehash) ?_ rfl hchildren⟩
        exact Prod.ext (List.append_nil _).symm rfl

/-- **The event loop handles one event at a time.** Whenever signals are raised and children exit,
    also between two calls of `waitpid`: the events handled in a run, each call of `reap_children`
    counted as one with the children it waited for, can be handled one after the other by the
    supervised daemon. While the daemon is not inside `reap_children` both are in the same state;
    otherwise it has handled the children waited for so far. -/
theorem runs_supervised (hinit : Initial host₀) (hrun : Run Step host₀ tr host) :
    ∃ sys₀ trace sys, Supervised.Initial sys₀ ∧ Run Supervised.Step sys₀ trace sys
      ∧ sys₀.daemon = host₀.daemon
      ∧ trace.filterMap (fun x => x.label.event) = (story tr).1
      ∧ (host.reaping = false → host.daemon = sys.daemon ∧ host.children = sys.children)
      ∧ host.daemon = (sys.daemon.reapChildren (story tr).2).1 := by
  obtain ⟨trace, sys, h⟩ := exists_follows hrun
  refine ⟨_, trace, sys, ⟨hinit.1, hinit.2.1⟩, h.run, rfl, h.events, h.here, ?_⟩
  rw [h.daemon, Daemon.reapNext_fst]

/-! ## A crash -/

/-- The demo daemon, before any signal. -/
def demo : Host where
  daemon := Daemon.demo
  children _ := none
  exited _ := false
  pending _ := false
  reaping := false

theorem demo_initial : Initial demo :=
  ⟨Daemon.demo_initial, by simp [demo], fun _ => rfl, fun _ => rfl, rfl⟩

/-- Alice's session is created, and its compositor exits. -/
def demoCrashed : Host :=
  let created := (demo.after (demoEnv 0) (demoConnect 7 1000) false).after (demoEnv 0)
    (.ipc (.command (demoCommand 7 1000 (.createSession "alice" none none)))) false
  { created with
    exited := Function.update created.exited 4242 true
    pending := Function.update created.pending .sigchld true }

theorem demoCrashed_run : ∃ tr, Run Step demo tr demoCrashed ∧ idsSpent tr = 1
    ∧ (story tr).1.length = 2 := by
  have hrun := ((Run.nil.snoc
    (Step.handled demo (demoEnv 0) (demoConnect 7 1000) false rfl rfl trivial)).snoc
    (Step.handled _ (demoEnv 0)
      (.ipc (.command (demoCommand 7 1000 (.createSession "alice" none none)))) false rfl rfl
      ⟨rfl, trivial⟩)).snoc (Step.exits _ 4242 rfl rfl)
  exact ⟨_, hrun, by decide, rfl⟩

theorem demoCrashed_exited {pid : Pid} (h : demoCrashed.exited pid = true) : pid = 4242 := by
  by_contra hpid
  have hearlier : stillExited (stillExited demo.exited _) _ pid = true :=
    (Function.update_of_ne hpid ..).symm.trans h
  exact absurd (stillExited_le _ _ (stillExited_le _ _ hearlier)) (by simp [demo])

/-- The daemon is told, and relaunches the compositor. -/
theorem runs_supervised_relaunched :
    ∃ sys₀ trace sys, Supervised.Initial sys₀ ∧ Run Supervised.Step sys₀ trace sys
      ∧ (trace.filterMap fun x => x.label.event).length = 3
      ∧ sys.daemon.processOf 1 = some 4243 := by
  obtain ⟨tr, hcrashed, -, hlength⟩ := demoCrashed_run
  have hreaped := (hcrashed.snoc (Step.woken _ .sigchld rfl rfl rfl)).snoc
    (Step.reaped _ { pid := 4242, respawned := .ok 4243 } rfl rfl ⟨rfl, rfl, trivial⟩)
  have hrun := hreaped.snoc (Step.drained _ (demoEnv 1) rfl fun pid => by
    rw [Bool.eq_false_iff]
    intro hexited
    obtain rfl := demoCrashed_exited (stillExited_le _ _ hexited)
    cases hexited)
  obtain ⟨sys₀, trace, sys, hinit, hsupervised, -, hevents, hhere, -⟩ :=
    runs_supervised demo_initial hrun
  refine ⟨sys₀, trace, sys, hinit, hsupervised, ?_, ?_⟩
  · rw [hevents, story_concat, story_concat, story_concat]
    simp [tell, hlength]
  · rw [← (hhere rfl).1]
    rfl

/-! ## Nothing that was raised is forgotten -/

/-- The step makes a signal pending. -/
def raises (signal : Signal) : HostLabel → Prop
  | .handled _ _ raised => raised = true ∧ signal = .sigchld
  | .delivered _ _ _ raised => raised = true ∧ signal = .sigchld
  | .exits _ => signal = .sigchld
  | .raised signal' => signal = signal'
  | _ => False

/-- The step reads a signal. -/
def reads (signal : Signal) : HostLabel → Prop
  | .delivered _ signal' _ _ => signal = signal'
  | .woken signal' => signal = signal'
  | _ => False

theorem chld_iff (pending : Signal → Bool) (raised : Bool) (signal : Signal) :
    chld pending raised signal = true
      ↔ (raised = true ∧ signal = .sigchld) ∨ pending signal = true := by
  unfold chld
  by_cases hsignal : signal = .sigchld
  · subst hsignal
    cases raised <;> simp
  · cases raised <;> simp [hsignal]

theorem update_pending_iff (pending : Signal → Bool) (read signal : Signal) :
    Function.update pending read false signal = true ↔ signal ≠ read ∧ pending signal = true := by
  by_cases hsignal : signal = read
  · simp [hsignal]
  · simp [hsignal]

theorem update_raised_iff (pending : Signal → Bool) (raised signal : Signal) :
    Function.update pending raised true signal = true
      ↔ signal = raised ∨ pending signal = true := by
  by_cases hsignal : signal = raised
  · simp [hsignal]
  · simp [hsignal]

/-- Which signals are pending after a step. -/
theorem Step.pending_iff (hstep : Step host l host') (signal : Signal) :
    host'.pending signal = true
      ↔ ¬ reads signal l ∧ (raises signal l ∨ host.pending signal = true) := by
  cases hstep with
  | handled env event raised _ _ _ =>
      simp only [after, chld_iff, raises, reads, not_false_eq_true, true_and]
  | terminated env read raised _ _ hintent _ =>
      simp only [after, chld_iff, raises, reads, update_pending_iff]
      constructor
      · rintro (⟨hraised, rfl⟩ | hpending)
        · refine ⟨?_, Or.inl ⟨hraised, rfl⟩⟩
          rintro rfl
          cases hintent
        · exact ⟨hpending.1, Or.inr hpending.2⟩
      · rintro ⟨hother, hraised | hpending⟩
        · exact Or.inl hraised
        · exact Or.inr ⟨hother, hpending⟩
  | reloaded env read _ _ _ =>
      simp [after, chld_iff, raises, reads, update_pending_iff]
  | woken read _ _ _ => simp [raises, reads, update_pending_iff]
  | reaped child _ _ _ => simp [raises, reads]
  | drained env _ _ => simp [raises, reads]
  | exits pid _ _ => simp [raises, reads, update_raised_iff]
  | raised signal' _ => simp [raises, reads, update_raised_iff]
  | forked pid _ _ => simp [raises, reads]
  | rehash _ _ => simp [raises, reads]

/-- The daemon has been told of the children that exited, or is waiting for them. -/
def Told (host : Host) : Prop :=
  ∀ p, host.exited p = true → host.reaping = true ∨ host.pending .sigchld = true

theorem Step.told (hstep : Step host l host') (h : Told host) : Told host' := by
  intro p hp
  -- a step that does not answer `SIGCHLD` leaves it pending
  have hkeep : host.exited p = true → host.reaping = false → ¬ reads .sigchld l →
      host'.pending .sigchld = true := by
    intro hexited hidle hread
    refine (hstep.pending_iff .sigchld).2 ⟨hread, Or.inr ?_⟩
    exact (h p hexited).resolve_left (by simp [hidle])
  cases hstep with
  | handled env event raised hidle _ _ =>
      exact Or.inr (hkeep (stillExited_le _ _ hp) hidle (by simp [reads]))
  | terminated env read raised hidle _ hintent _ =>
      refine Or.inr (hkeep (stillExited_le _ _ hp) hidle ?_)
      rintro rfl
      cases hintent
  | reloaded env read hidle _ hintent =>
      refine Or.inr (hkeep (stillExited_le _ _ hp) hidle ?_)
      rintro rfl
      cases hintent
  | woken read _ _ _ => exact Or.inl rfl
  | reaped child hreaping _ _ => exact Or.inl hreaping
  | drained env _ hnone =>
      rw [hnone p] at hp
      cases hp
  | exits pid _ _ =>
      exact Or.inr ((update_raised_iff host.pending .sigchld .sigchld).2 (Or.inl rfl))
  | raised signal _ =>
      refine (h p hp).imp_right fun hpending => ?_
      exact (update_raised_iff _ _ _).2 (Or.inr hpending)
  | forked pid _ _ => exact h p hp
  | rehash _ _ => exact h p hp

end Host

/-! ## The end of the loop -/

namespace Daemon

variable {d : Daemon} {env : Env}

theorem handleCompositorExit_shouldExit (child : ReapedChild) :
    (d.handleCompositorExit child).1.shouldExit = d.shouldExit := by
  obtain ⟨registry, sessions, heq⟩ := handleCompositorExit_writes d child
  rw [heq]

theorem onIdleTick_shouldExit : (d.onIdleTick env).1.shouldExit = d.shouldExit := by
  have hloop := SeqClosed.loop
    (R := fun (d : Daemon) (_ : List Effect) d' => d'.shouldExit = d.shouldExit)
    ⟨fun _ => rfl, fun h h' => h'.trans h⟩ (idleChange env)
    (d.idle.tick env.now (IdlePolicy.from d.settings.idle)).2
    (fun d change _ => by
      obtain ⟨sessions, locks, heq⟩ := idleChange_writes d env change
      rw [heq])
    { d with idle := (d.idle.tick env.now (IdlePolicy.from d.settings.idle)).1 }
  exact hloop

/-- Once `should_exit` is set it stays so. -/
theorem handle_shouldExit (event : DaemonEvent) (h : d.shouldExit = true) :
    (d.handle env event).1.shouldExit = true := by
  match event with
  | .ipc (.connected connId peer outbox) => exact h
  | .ipc (.disconnected connId) => exact h
  | .ipc (.command cmd) =>
      cases hauth : authorize env.userByName cmd.peer cmd.connId cmd.request d.sessions
        d.elevation with
      | error e =>
          rw [handle_rejected hauth]
          exact h
      | ok u =>
          simp only [handle_authorized hauth]
          obtain ⟨sessions, seats, locks, idle, elevation, heq, -⟩ :=
            dispatch_writes d env cmd.connId cmd.request
          rw [heq]
          exact h
  | .idleTick => exact onIdleTick_shouldExit.trans h
  | .signal .terminate => rfl
  | .signal .reloadConfig =>
      simp only [handle, onSignal, reloadConfig]
      split
      · exact h
      · exact h
  | .signal (.reapChildren children) =>
      have hloop := SeqClosed.loop
        (R := fun (d : Daemon) (_ : List Effect) d' => d'.shouldExit = d.shouldExit)
        ⟨fun _ => rfl, fun h h' => h'.trans h⟩ handleCompositorExit children
        (fun d child _ => handleCompositorExit_shouldExit child) d
      exact hloop.trans h

end Daemon

namespace Host

variable {host₀ host host' : Host} {tr : List (Transition Host HostLabel)} {l : HostLabel}

theorem Step.shouldExit (hstep : Step host l host') (h : host.daemon.shouldExit = true) :
    host'.daemon.shouldExit = true := by
  cases hstep with
  | handled env event raised _ _ _ => exact Daemon.handle_shouldExit event h
  | terminated env signal raised _ _ _ _ => rfl
  | reloaded env signal _ _ _ => exact Daemon.handle_shouldExit (.signal .reloadConfig) h
  | reaped child _ _ _ => exact (Daemon.handleCompositorExit_shouldExit child).trans h
  | rehash _ hrehash => exact hrehash.shouldExit.trans h
  | _ => exact h

end Host

end MitosSession
