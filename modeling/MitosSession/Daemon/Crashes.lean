import MitosSession.Daemon.Restarts

set_option autoImplicit false

/-! # How long crash handling goes on

`handle_compositor_exit` relaunches the compositor of a session until its counter reaches
`max_compositor_restarts`, and starts a terminal in its place from then on. The terminal is
remembered where the compositor was, so when it exits it is taken for a compositor that crashed
once more, and another terminal is started. `crash_handling_iff` counts what is spawned over the
life of a session, and bounds the iterations of the `waitpid` loop in terms of the children there
are and the restarts left. -/

namespace MitosSession

/-- The effect starts the program for the session, or tries to. -/
def Effect.isSpawn (s : SessionId) (program : Program) : Effect → Bool
  | .spawn s' program' _ => s' = s ∧ program' = program
  | _ => false

/-- The effect has started a process. -/
def Effect.hasSpawned : Effect → Bool
  | .spawn _ _ spawned => spawned
  | _ => false

namespace Daemon

variable {d d' d₀ d₁ : Daemon} {env : Env} {event : DaemonEvent} {s : SessionId}
  {child : ReapedChild} {m n₀ : ℕ}

/-! ## Iterations -/

/-- One iteration of the `waitpid` loop: the daemon before it, and the child it reaps. -/
structure Round where
  daemon : Daemon
  child : ReapedChild

/-- The iterations of `reap_children`. -/
def rounds : Daemon → List ReapedChild → List Round
  | _, [] => []
  | self, child :: rest => ⟨self, child⟩ :: rounds (self.handleCompositorExit child).1 rest

/-- The iterations a step makes. -/
def roundsOf (x : Transition Daemon DaemonLabel) : List Round :=
  match x.label with
  | .handled _ (.signal (.reapChildren children)) _ => x.pre.rounds children
  | _ => []

/-- The iterations of all calls of `reap_children` in a run. -/
def reaped (tr : List (Transition Daemon DaemonLabel)) : List Round :=
  tr.flatMap roundsOf

/-- The child is the one the session's record holds. -/
def Round.exits (s : SessionId) (r : Round) : Bool :=
  r.daemon.exited r.child = some s

/-- The child is the one the session's record holds, and its restarts are used up. -/
def Round.exhausts (s : SessionId) (r : Round) : Bool :=
  r.exits s && (r.daemon.restartsOf s).any fun n =>
    decideRestart n r.daemon.maxRestarts = .fallbackToTerminal

/-- The iteration starts the program for the session, or tries to. -/
def Round.spawns (s : SessionId) (program : Program) (r : Round) : Bool :=
  (r.daemon.handleCompositorExit r.child).2.any (Effect.isSpawn s program)

/-- How often `handle_compositor_exit` relaunched the session's compositor. -/
def relaunches (s : SessionId) (l : List Round) : ℕ :=
  l.countP (Round.spawns s .compositor)

/-- How often it started a terminal for the session. -/
def fallbacks (s : SessionId) (l : List Round) : ℕ :=
  l.countP (Round.spawns s .fallbackTerminal)

/-- No child of the session exits once one exited with the restarts used up: the terminal started
    then is never reaped. -/
def TerminalSpared (s : SessionId) (l : List Round) : Prop :=
  ∀ l₁ r l₂, l = l₁ ++ r :: l₂ → r.exits s = true → ∀ r' ∈ l₁, r'.exhausts s = false

/-! ## Counting -/

/-- The iterations `l` brought the counter of the session from `n₀` to where it is in `d`, with at
    most `m` restarts allowed. -/
structure Tally (s : SessionId) (m n₀ : ℕ) (l : List Round) (d : Daemon) : Prop where
  counted : ∀ n, d.restartsOf s = some n → n = n₀ + relaunches s l
  bounded : relaunches s l ≤ m - n₀
  spent : 0 < fallbacks s l → m ≤ n₀ + relaunches s l
  exits : l.countP (Round.exits s) = relaunches s l + fallbacks s l
  exhausts : l.countP (Round.exhausts s) = fallbacks s l
  spared : fallbacks s l ≤ 1 ↔ TerminalSpared s l

theorem Tally.nil (h : ∀ n, d.restartsOf s = some n → n = n₀) : Tally s m n₀ [] d where
  counted n hn := h n hn
  bounded := Nat.zero_le _
  spent hpos := absurd hpos (Nat.lt_irrefl 0)
  exits := rfl
  exhausts := rfl
  spared := iff_of_true (Nat.zero_le _) fun l₁ r l₂ hl => by simp at hl

/-- Steps that do not touch the counter do not change the count. -/
theorem Tally.of_fewer {l : List Round} (h : Tally s m n₀ l d)
    (hfewer : d'.restartsOf s = none ∨ d'.restartsOf s = d.restartsOf s) : Tally s m n₀ l d' := by
  refine { h with counted := fun n hn => h.counted n ?_ }
  rcases hfewer with hnone | hsame
  · rw [hnone] at hn
    cases hn
  · exact hsame ▸ hn

theorem terminalSpared_concat_iff {l : List Round} {r : Round} :
    TerminalSpared s (l ++ [r]) ↔
      TerminalSpared s l ∧ (r.exits s = true → l.countP (Round.exhausts s) = 0) := by
  refine (forall_split_concat (Q := fun l₁ (r : Round) => r.exits s = true →
    ∀ r' ∈ l₁, r'.exhausts s = false)).trans (and_congr_right fun _ => imp_congr_right fun _ => ?_)
  simp only [List.countP_eq_zero, Bool.not_eq_true]

/-- What an iteration starts for the session, and where it leaves the counter. -/
theorem round_cases (hkept : Kept d) (child : ReapedChild) (s : SessionId) :
    ((⟨d, child⟩ : Round).exits s = false
        ∧ (∀ program, (⟨d, child⟩ : Round).spawns s program = false)
        ∧ (d.handleCompositorExit child).1.restartsOf s = d.restartsOf s)
      ∨ ∃ n, d.restartsOf s = some n ∧ (⟨d, child⟩ : Round).exits s = true
        ∧ (∀ program, (⟨d, child⟩ : Round).spawns s program
          = decide ((afterExit n d.maxRestarts).1 = program))
        ∧ (d.handleCompositorExit child).1.restartsOf s
          = some (afterExit n d.maxRestarts).2 := by
  unfold Round.exits Round.spawns
  rcases handleCompositorExit_spawns hkept child with
    ⟨hexited, heq⟩ | ⟨k, n, hexited, hn, ⟨started, hstarted⟩, hafter⟩
  -- the child is no session's: nothing happens
  · exact Or.inl ⟨by simp [hexited], by simp [heq], by rw [heq]⟩
  · by_cases hs : s = k
    · subst hs
      refine Or.inr ⟨n, hn, by simp [hexited], fun program => ?_, by rw [hafter, if_pos rfl]⟩
      rw [hstarted]
      simp [Effect.isSpawn]
    · refine Or.inl ⟨by simp [hexited, Ne.symm hs], fun program => ?_, by rw [hafter, if_neg hs]⟩
      rw [hstarted]
      simp [Effect.isSpawn, Ne.symm hs]

theorem countP_concat_round (p : Round → Bool) (l : List Round) (r : Round) :
    (l ++ [r]).countP p = l.countP p + (p r).toNat := by
  rw [List.countP_append, List.countP_singleton]
  cases p r <;> rfl

/-- An iteration relaunches the compositor (`c = 1`) while restarts are left, starts a terminal
    (`x = 1`) once they are used up, or is not about the session. -/
theorem Tally.concat {l : List Round} {r : Round} {c x : ℕ} (h : Tally s m n₀ l d)
    (hc : (r.spawns s .compositor).toNat = c) (hx : (r.spawns s .fallbackTerminal).toNat = x)
    (hexits : (r.exits s).toNat = c + x) (hexhausts : (r.exhausts s).toNat = x)
    (hleft : 0 < c → n₀ + relaunches s l < m) (hspent : 0 < x → m ≤ n₀ + relaunches s l)
    (hcounted : ∀ n, d'.restartsOf s = some n → n = n₀ + (relaunches s l + c)) :
    Tally s m n₀ (l ++ [r]) d' := by
  have hrelaunches : relaunches s (l ++ [r]) = relaunches s l + c :=
    (countP_concat_round ..).trans (by rw [hc]; rfl)
  have hfallbacks : fallbacks s (l ++ [r]) = fallbacks s l + x :=
    (countP_concat_round ..).trans (by rw [hx]; rfl)
  -- one exit starts one program
  have hone : c + x ≤ 1 := hexits ▸ Bool.toNat_le _
  have hexit : r.exits s = true ↔ 0 < c + x := by
    rw [← hexits]
    cases r.exits s <;> simp
  obtain ⟨-, hbounded, hsooner, hall, hout, hspared⟩ := h
  constructor
  · rw [hrelaunches]
    exact hcounted
  · omega
  · omega
  · rw [countP_concat_round, hexits]
    omega
  · rw [countP_concat_round, hexhausts, hfallbacks, hout]
  -- a second terminal is one more exit with the restarts already used up
  · rw [terminalSpared_concat_iff, ← hspared, hexit, hout, hfallbacks]
    omega

/-- One iteration. -/
theorem Tally.round {l : List Round} (h : Tally s m n₀ l d) (hkept : Kept d)
    (hmax : d.maxRestarts = m) (hm : m < u32Size) (child : ReapedChild) :
    Tally s m n₀ (l ++ [⟨d, child⟩]) (d.handleCompositorExit child).1 := by
  rcases round_cases hkept child s with ⟨hexits, hspawns, hsame⟩ | ⟨n, hn, hexits, hspawns, hafter⟩
  · refine h.concat (c := 0) (x := 0) ?_ ?_ ?_ ?_ (by simp) (by simp) ?_
    · rw [hspawns, Bool.toNat_false]
    · rw [hspawns, Bool.toNat_false]
    · rw [hexits, Bool.toNat_false]
    · rw [Round.exhausts, hexits, Bool.false_and, Bool.toNat_false]
    · rw [hsame]
      exact h.counted
  · have hcount := h.counted n hn
    have hexhausts : (⟨d, child⟩ : Round).exhausts s = decide (m ≤ n) := by
      simp [Round.exhausts, hexits, hn, hmax, decideRestart]
    by_cases hleft : n < m
    -- below the limit the counter does not wrap around
    · have hdecided : afterExit n d.maxRestarts = (.compositor, n + 1) := by
        rw [hmax, afterExit, decideRestart, if_pos hleft, wrapU32_of_lt (by omega)]
      rw [hdecided] at hspawns hafter
      refine h.concat (c := 1) (x := 0) ?_ ?_ ?_ ?_ (by omega) (by simp) ?_
      · simp [hspawns]
      · simp [hspawns]
      · rw [hexits, Bool.toNat_true]
      · simp [hexhausts, hleft]
      · rintro n' hn'
        obtain rfl := Option.some.inj (hafter.symm.trans hn')
        omega
    -- `FallbackToTerminal` leaves the counter where it is, so it is chosen at every later exit too
    · have hdecided : afterExit n d.maxRestarts = (.fallbackTerminal, n) := by
        rw [hmax, afterExit, decideRestart, if_neg hleft]
      rw [hdecided] at hspawns hafter
      refine h.concat (c := 0) (x := 1) ?_ ?_ ?_ ?_ (by simp) (by omega) ?_
      · simp [hspawns]
      · simp [hspawns]
      · rw [hexits, Bool.toNat_true]
      · simp [hexhausts, Nat.not_lt.1 hleft]
      · rintro n' hn'
        obtain rfl := Option.some.inj (hafter.symm.trans hn')
        exact hcount

theorem handleCompositorExit_maxRestarts (child : ReapedChild) :
    (d.handleCompositorExit child).1.maxRestarts = d.maxRestarts := by
  obtain ⟨registry, sessions, heq⟩ := handleCompositorExit_writes d child
  rw [heq]
  rfl

/-- The whole loop. -/
theorem Tally.reap (children : List ReapedChild) {l : List Round} (h : Tally s m n₀ l d)
    (hkept : Kept d) (hmax : d.maxRestarts = m) (hm : m < u32Size) :
    Tally s m n₀ (l ++ d.rounds children) (d.reapChildren children).1 := by
  unfold reapChildren
  induction children generalizing d l with
  | nil =>
      rw [rounds, List.append_nil]
      exact h
  | cons child rest ih =>
      rw [rounds, List.append_cons, forEach_cons]
      exact ih (h.round hkept hmax hm child) (handleCompositorExit_kept hkept child)
        ((handleCompositorExit_maxRestarts child).trans hmax)

/-! ## The life of a session -/

/-- The command creates a session, under the id `s`. -/
def Creates (s : SessionId) (d : Daemon) (env : Env) (cmd : ManagerCommand) : Prop :=
  authorize env.userByName cmd.peer cmd.connId cmd.request d.sessions d.elevation = .ok ()
    ∧ (∃ userName seatId sessionType, cmd.request = .createSession userName seatId sessionType)
    ∧ (∃ info, (d.dispatch env cmd.connId cmd.request).response = some (.session info))
    ∧ d.sessions.nextId = s

theorem Creates.restartsOf {cmd : ManagerCommand} (h : Creates s d env cmd) {n : ℕ}
    (hn : (d.handle env (.ipc (.command cmd))).1.restartsOf s = some n) : n = 0 := by
  obtain ⟨hauth, ⟨userName, seatId, sessionType, hrequest⟩, ⟨info, hresponse⟩, rfl⟩ := h
  rw [handle_authorized hauth] at hn
  rw [hrequest] at hn hresponse
  rcases createSession_restartsOf (d := d) env userName seatId sessionType with
    ⟨hnot, -⟩ | ⟨-, hafter⟩
  · exact absurd hresponse (hnot info)
  -- the record is a new one, with no restarts
  · have hzero := (hafter d.sessions.nextId).trans (if_pos rfl)
    exact Option.some.inj (hn.symm.trans hzero)

theorem Tally.step {x : Transition Daemon DaemonLabel} {l : List Round}
    (h : Tally s m n₀ l x.pre) (hstep : Step x.pre x.label x.post) (hkept : Kept x.pre)
    (hmax : x.pre.maxRestarts = m) (hm : m < u32Size) (htakes : ¬ Takes s x) :
    Tally s m n₀ (l ++ roundsOf x) x.post := by
  obtain ⟨pre, label, post⟩ := x
  dsimp only at h hstep hkept hmax
  cases hstep with
  | handled env event =>
      -- only `reap_children` makes iterations, and only it writes counters of records that stay
      by_cases hreap : ∃ children, event = .signal (.reapChildren children)
      · obtain ⟨children, rfl⟩ := hreap
        exact h.reap children hkept hmax hm
      · have hnone : roundsOf ⟨pre, .handled env event (pre.handle env event).2,
            (pre.handle env event).1⟩ = [] := by
          unfold roundsOf
          split
          · rename_i heq
            cases heq
            exact absurd ⟨_, rfl⟩ hreap
          · rfl
        rw [hnone, List.append_nil]
        exact h.of_fewer (handle_restartsOf env event (fun children => (hreap ⟨children, ·⟩))
          htakes)
  | rehash hr =>
      rw [roundsOf, List.append_nil]
      refine h.of_fewer (Or.inr ?_)
      simp only [Daemon.restartsOf, hr.sessions.sessions.lookup_eq]

theorem tally_of_run {tr : List (Transition Daemon DaemonLabel)} (hreach : Reachable d₁)
    (hcount : ∀ n, d₁.restartsOf s = some n → n = 0) (hrun : Run Step d₁ tr d)
    (hmax : ∀ y ∈ tr, y.pre.maxRestarts = m) (hm : m < u32Size) (htakes : ∀ y ∈ tr, ¬ Takes s y) :
    Tally s m 0 (reaped tr) d := by
  refine (hrun.history_along (P := fun tr d => Reachable d ∧ Tally s m 0 (reaped tr) d)
    (G := fun _ y => y.pre.maxRestarts = m ∧ ¬ Takes s y) ⟨hreach, Tally.nil hcount⟩ ?_ ?_).2
  · rintro tr₁ y tr₂ rfl
    exact ⟨hmax y (by simp), htakes y (by simp)⟩
  · rintro tr d l d' ⟨hreach, htally⟩ hstep ⟨hmax, htakes⟩
    refine ⟨hreach.step hstep, ?_⟩
    rw [reaped, List.flatMap_append, List.flatMap_singleton]
    exact htally.step (x := ⟨d, l, d'⟩) hstep hreach.kept hmax hm htakes

/-! ## How long the loop can go on -/

/-- The process an iteration starts. -/
def started (self : Daemon) (child : ReapedChild) : List Pid :=
  match child.respawned with
  | .ok pid => if (self.handleCompositorExit child).2.any Effect.hasSpawned then [pid] else []
  | .error _ => []

/-- The loop can reap these children one after the other if `alive` are the children it has when it
    starts: each is one of them, or was started on the way, under a process id no other child
    had. -/
def Feasible : Daemon → List Pid → List ReapedChild → Prop
  | _, _, [] => True
  | self, alive, child :: rest =>
    child.pid ∈ alive
      ∧ (∀ pid ∈ self.started child, pid ∉ alive.erase child.pid)
      ∧ Feasible (self.handleCompositorExit child).1
        (self.started child ++ alive.erase child.pid) rest

/-- The restarts left to the sessions there are, and a terminal for each. -/
def restartBudget (self : Daemon) : ℕ :=
  self.sessions.list.foldr (fun ctx n => self.maxRestarts - ctx.compositorRestarts + 1 + n) 0

/-- The sessions whose children exit, in order. -/
def exitsOf (l : List Round) : List SessionId :=
  l.filterMap fun r => r.daemon.exited r.child

theorem count_exitsOf (s : SessionId) (l : List Round) :
    (exitsOf l).count s = l.countP (Round.exits s) := by
  rw [exitsOf, List.count_filterMap]
  congr 1
  funext r
  exact beq_eq_decide ..

theorem exitsOf_rounds_cons (d : Daemon) (child : ReapedChild) (rest : List ReapedChild) :
    exitsOf (d.rounds (child :: rest))
      = (d.exited child).toList ++ exitsOf ((d.handleCompositorExit child).1.rounds rest) := by
  simp only [exitsOf, rounds, List.filterMap_cons]
  cases d.exited child <;> rfl

theorem length_started_le (hkept : Kept d) (child : ReapedChild) :
    (d.started child).length ≤ (d.exited child).toList.length := by
  unfold started
  split
  · rcases handleCompositorExit_spawns hkept child with ⟨hexited, heq⟩ | ⟨k, n, hexited, -⟩
    · rw [heq, hexited]
      simp
    · rw [hexited]
      split <;> simp
  · exact Nat.zero_le _

/-- Every iteration uses up a child, and starts one only if a session's child exited. -/
theorem Feasible.length_le {children : List ReapedChild} {alive : List Pid} (hkept : Kept d)
    (h : Feasible d alive children) :
    children.length ≤ alive.length + (exitsOf (d.rounds children)).length := by
  induction children generalizing d alive with
  | nil => exact Nat.zero_le _
  | cons child rest ih =>
      obtain ⟨hmem, -, hrest⟩ := h
      have hlater := ih (handleCompositorExit_kept hkept child) hrest
      have hstarted := length_started_le hkept child
      have herase := List.length_erase_of_mem hmem
      have hpos := List.length_pos_of_mem hmem
      rw [List.length_append] at hlater
      -- one child fewer, and as many more as have been started
      rw [List.length_cons, exitsOf_rounds_cons, List.length_append]
      omega

/-- Only sessions there are when the loop starts are about. -/
theorem restartsOf_of_mem_exitsOf {children : List ReapedChild} (hkept : Kept d)
    (h : s ∈ exitsOf (d.rounds children)) : ∃ n, d.restartsOf s = some n := by
  induction children generalizing d with
  | nil => cases h
  | cons child rest ih =>
      rw [exitsOf_rounds_cons, List.mem_append, Option.mem_toList] at h
      rcases handleCompositorExit_spawns hkept child with
        ⟨hnone, heq⟩ | ⟨k, n, hk, hn, -, hafter⟩
      · rw [hnone, heq] at h
        exact ih hkept (h.resolve_left (by simp))
      · by_cases hs : s = k
        · exact ⟨n, hs ▸ hn⟩
        -- the other sessions' counters are kept, so the record is there when the loop starts
        · have hlater := h.resolve_left (by simp [hk, Ne.symm hs])
          obtain ⟨n', hn'⟩ := ih (handleCompositorExit_kept hkept child) hlater
          rw [hafter, if_neg hs] at hn'
          exact ⟨n', hn'⟩

theorem length_exitsOf_le {children : List ReapedChild} (hkept : Kept d)
    (hmax : d.maxRestarts < u32Size)
    (hspared : ∀ k, TerminalSpared k (d.rounds children)) :
    (exitsOf (d.rounds children)).length ≤ d.restartBudget := by
  -- summed over the sessions: `restartBudget` has one summand for each record
  refine Table.length_le_sum_values _ (fun k hk => ?_) fun k ctx hctx => ?_
  · obtain ⟨n, hn⟩ := restartsOf_of_mem_exitsOf hkept hk
    obtain ⟨ctx, hctx, -⟩ := Option.map_eq_some_iff.1 hn
    exact Table.mem_iff_lookup.2 ⟨ctx, hctx⟩
  · have hstart : ∀ n, d.restartsOf k = some n → n = ctx.compositorRestarts := by
      intro n hn
      rw [restartsOf, hctx, Option.map_some] at hn
      exact (Option.some.inj hn).symm
    have htally := (Tally.nil (m := d.maxRestarts) hstart).reap children hkept rfl hmax
    rw [List.nil_append] at htally
    have honce := htally.spared.2 (hspared k)
    rw [count_exitsOf, htally.exits]
    exact Nat.add_le_add htally.bounded honce

/-- **Crash handling.** Over the life of a session, `handle_compositor_exit` relaunches its
    compositor at most `max_compositor_restarts` times. It starts at most one terminal exactly if
    no child of the session exits after one that exited with the restarts used up. Under the same
    condition on one call, the `waitpid` loop reaps no more than the children there are, and one
    for each restart left and each terminal. -/
theorem crash_handling_iff {tr₁ tr₂ : List (Transition Daemon DaemonLabel)} {cmd : ManagerCommand}
    (hinit : Initial d₀) (hbefore : Run Step d₀ tr₁ d₁) (hcreates : Creates s d₁ env cmd)
    (hafter : Run Step (d₁.handle env (.ipc (.command cmd))).1 tr₂ d)
    (hmax : ∀ y ∈ tr₂, y.pre.maxRestarts = m) (hm : m < u32Size)
    (htakes : ∀ y ∈ tr₂, ¬ Takes s y) :
    relaunches s (reaped tr₂) ≤ m
      ∧ (fallbacks s (reaped tr₂) ≤ 1 ↔ TerminalSpared s (reaped tr₂))
      ∧ ∀ alive children, Feasible d alive children → d.maxRestarts < u32Size →
        (∀ k, TerminalSpared k (d.rounds children)) →
          children.length ≤ alive.length + d.restartBudget := by
  have hcreated : Reachable (d₁.handle env (.ipc (.command cmd))).1 :=
    Reachable.step ⟨d₀, tr₁, hinit, hbefore⟩ (Step.handled ..)
  have htally := tally_of_run hcreated (fun n hn => hcreates.restartsOf hn) hafter hmax hm htakes
  refine ⟨htally.bounded, htally.spared, fun alive children hfeasible hmax hspared => ?_⟩
  obtain ⟨d₂, tr, hinit₂, hrun⟩ := hcreated
  have hkept : Kept d := Reachable.kept ⟨d₂, tr ++ tr₂, hinit₂, hrun.append hafter⟩
  calc children.length ≤ alive.length + (exitsOf (d.rounds children)).length :=
        hfeasible.length_le hkept
    _ ≤ alive.length + d.restartBudget :=
        Nat.add_le_add_left (length_exitsOf_le hkept hmax hspared) _

/-- Alice connects. -/
private def aliceConnected : Daemon :=
  demo.replay [(demoEnv 0, demoConnect 7 1000)]

/-- She creates her session, whose compositor is process 4242. -/
private def aliceCreates : ManagerCommand :=
  demoCommand 7 1000 (.createSession "alice" none none)

/-- The daemon with her session. -/
private def aliceCreated : Daemon :=
  (aliceConnected.handle (demoEnv 0) (.ipc (.command aliceCreates))).1

/-- The children that exit in one call of `reap_children`. -/
private def reaping (children : List ReapedChild) : Transition Daemon DaemonLabel :=
  ⟨aliceCreated,
    .handled (demoEnv 0) (.signal (.reapChildren children)) (aliceCreated.reapChildren children).2,
    (aliceCreated.reapChildren children).1⟩

/-- The compositor exits four times, and each time another process is started. -/
private def fourCrashes : List ReapedChild :=
  [⟨4242, .ok 4243⟩, ⟨4243, .ok 4244⟩, ⟨4244, .ok 4245⟩, ⟨4245, .ok 4246⟩]

private theorem reaping_run (children : List ReapedChild) :
    Run Step aliceCreated [reaping children] (aliceCreated.reapChildren children).1 :=
  Run.single (Step.handled ..)

private theorem aliceCreates_one : Creates 1 aliceConnected (demoEnv 0) aliceCreates :=
  ⟨by decide, ⟨_, _, _, rfl⟩, ⟨_, rfl⟩, rfl⟩

/-- Three relaunches, and then a terminal, which stays. -/
theorem crash_handling_terminal_stays :
    relaunches 1 (reaped [reaping fourCrashes]) = 3
      ∧ fallbacks 1 (reaped [reaping fourCrashes]) = 1 := by
  have hspared : TerminalSpared 1 (reaped [reaping fourCrashes]) := by
    intro l₁ r l₂ hl _ r' hr'
    -- only the last of the four finds the restarts used up
    have hearlier : ∀ r' ∈ (reaped [reaping fourCrashes]).dropLast, r'.exhausts 1 = false := by
      decide
    refine hearlier r' ?_
    rw [hl, List.dropLast_append_cons]
    exact List.mem_append_left _ hr'
  have hbefore : Run Step demo _ aliceConnected := Run.single (Step.handled ..)
  have hhandled := crash_handling_iff demo_initial hbefore aliceCreates_one
    (reaping_run fourCrashes) (m := 3) (by decide) (by decide) (by decide)
  have honce := hhandled.2.1.2 hspared
  refine ⟨by decide, le_antisymm honce (by decide)⟩

/-- The only session runs a terminal, as process `pid`. -/
private def OnTerminal (pid : Pid) (d : Daemon) : Prop :=
  ∃ ctx, d.sessions.sessions.entries = [⟨ctx.id, ctx⟩] ∧ ctx.compositorProcess = some pid
    ∧ decideRestart ctx.compositorRestarts d.maxRestarts = .fallbackToTerminal

private theorem update_single {sessions : SessionManager} {k : SessionId} {ctx : SessionContext}
    (h : sessions.sessions.entries = [⟨k, ctx⟩]) (f : SessionContext → SessionContext) :
    (sessions.update k f).sessions.entries = [⟨k, f ctx⟩] := by
  simp [SessionManager.update, Table.modify, Table.mapVal, h, Sigma.map]

/-- When it exits, another terminal is started, and nothing else has changed. -/
private theorem OnTerminal.exits {pid : Pid} (h : OnTerminal pid d) (next : Pid) :
    OnTerminal next (d.handleCompositorExit ⟨pid, .ok next⟩).1
      ∧ d.started ⟨pid, .ok next⟩ = [next] := by
  obtain ⟨ctx, hentries, hpid, hspent⟩ := h
  have hfind : (d.sessions.sessions.entries.find? fun e => e.2.compositorProcess = some pid)
      = some ⟨ctx.id, ctx⟩ := by
    simp [hentries, hpid]
  have heq : d.handleCompositorExit ⟨pid, .ok next⟩
      = (d.fellBack ctx.id ctx).replaceCompositor ctx.id ctx.compositorRestarts (.ok next) :=
    handleCompositorExit_eq hfind rfl
  -- the record is written three times: the compositor is lost, the state is `Starting`, and the
  -- terminal takes the compositor's place
  have hlost := update_single (update_single hentries fun ctx =>
    { ctx with compositorProcess := none, compositorConn := none }) (·.transition .starting)
  obtain ⟨lost, hget⟩ : ∃ lost, (d.fellBack ctx.id ctx).sessions.get ctx.id = .ok lost := by
    have hlookup := Table.lookup_eq_some_iff.2 (hlost ▸ List.mem_singleton_self _)
    exact ⟨_, by rw [SessionManager.get, fellBack, loseCompositor, hlookup]⟩
  have hreplaced : (d.fellBack ctx.id ctx).replaceCompositor ctx.id ctx.compositorRestarts
      (.ok next)
      = ({ d.fellBack ctx.id ctx with
          sessions := (d.fellBack ctx.id ctx).sessions.update ctx.id fun ctx =>
            { ctx with compositorProcess := some next } },
        [.spawn ctx.id .fallbackTerminal true]) := by
    unfold replaceCompositor
    rw [show (d.fellBack ctx.id ctx).maxRestarts = d.maxRestarts from rfl, hspent]
    simp only [hget]
  constructor
  · rw [heq, hreplaced]
    refine ⟨{ ({ ctx with compositorProcess := none, compositorConn := none } :
      SessionContext).transition .starting with compositorProcess := some next },
      (update_single hlost _).trans ?_, rfl, ?_⟩
    · simp [SessionContext.id]
    · dsimp only
      rw [SessionContext.transition_compositorRestarts]
      exact hspent
  · rw [started, heq, hreplaced]
    rfl

/-- From then on, terminals can exit for ever. -/
private theorem OnTerminal.feasible (n : ℕ) {pid : Pid} (h : OnTerminal pid d) :
    ∃ children, children.length = n ∧ Feasible d [pid] children := by
  induction n generalizing d pid with
  | zero => exact ⟨[], rfl, trivial⟩
  | succ n ih =>
      obtain ⟨hnext, hstarted⟩ := h.exits (pid + 1)
      obtain ⟨children, hlength, hfeasible⟩ := ih hnext
      refine ⟨⟨pid, .ok (pid + 1)⟩ :: children, by rw [List.length_cons, hlength], ?_⟩
      refine ⟨List.mem_singleton_self pid, ?_, ?_⟩
      · simp
      · rw [hstarted]
        simpa using hfeasible

/-- The fifth exit is that of the terminal: a second terminal is started. From there the loop can
    go on for as long as terminals exit. -/
theorem crash_handling_goes_on :
    (∃ (d₁ d : Daemon) (env : Env) (cmd : ManagerCommand)
        (tr₂ : List (Transition Daemon DaemonLabel)), Reachable d₁ ∧ Creates 1 d₁ env cmd
        ∧ Run Step (d₁.handle env (.ipc (.command cmd))).1 tr₂ d
        ∧ (∀ y ∈ tr₂, y.pre.maxRestarts = 3) ∧ (∀ y ∈ tr₂, ¬ Takes 1 y)
        ∧ relaunches 1 (reaped tr₂) = 3 ∧ fallbacks 1 (reaped tr₂) = 2)
      ∧ ∃ d alive, Reachable d ∧ ∀ n, ∃ children, children.length = n
        ∧ Feasible d alive children := by
  have hconnected : Reachable aliceConnected := demo_reachable.replay _
  have hcreated : Reachable aliceCreated := hconnected.step (Step.handled ..)
  constructor
  · exact ⟨aliceConnected, _, demoEnv 0, aliceCreates,
      [reaping (fourCrashes ++ [⟨4246, .ok 4247⟩])], hconnected, aliceCreates_one, reaping_run _,
      by decide, by decide, by decide, by decide⟩
  · have hterminal : OnTerminal 4246 (aliceCreated.reapChildren fourCrashes).1 := by
      refine ⟨((aliceCreated.reapChildren fourCrashes).1.sessions.sessions.entries.head
        (by decide)).2, rfl, rfl, ?_⟩
      decide
    exact ⟨_, [4246], hcreated.step (Step.handled _ (demoEnv 0)
      (.signal (.reapChildren fourCrashes))), fun n => hterminal.feasible n⟩

end Daemon

end MitosSession
