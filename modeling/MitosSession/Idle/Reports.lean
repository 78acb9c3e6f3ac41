import MitosSession.Library.Run
import MitosSession.Idle
import Mathlib.Logic.Function.Basic

set_option autoImplicit false

/-! # What the stage changes of the ticks add up to

`tick` returns the seats whose stage it changed, and the daemon lives on these changes alone. The
stage of a seat is written by `record_activity` as well, which returns nothing: when a dimmed seat
sees input, the stage goes back to `Active` behind the consumer's back, and the next tick finds
nothing to report. `tick_tells_stages_iff` says exactly when the consumer is wrong. -/

namespace MitosSession

/-- The calls that write the detector. -/
inductive IdleCall where
  | recordActivity (seatId : String) (now : Instant)
  | tick (now : Instant) (policy : IdlePolicy)

namespace IdleDetector

/-- What a call makes of the detector. -/
def after (self : IdleDetector) : IdleCall → IdleDetector
  | .recordActivity seatId now => self.recordActivity seatId now
  | .tick now policy => (self.tick now policy).1

/-- The stage changes a call returns. -/
def reports (self : IdleDetector) : IdleCall → List (String × IdleStage)
  | .recordActivity _ _ => []
  | .tick now policy => (self.tick now policy).2

/-- A call of a run; between calls the maps may come to iterate in another order. -/
def Calls (self : IdleDetector) (call : IdleCall) (self' : IdleDetector) : Prop :=
  Rehash (self.after call) self'

theorem Rehash.stageOf_eq {self self' : IdleDetector} (h : Rehash self self') (seatId : String) :
    self'.stageOf seatId = self.stageOf seatId := by
  unfold stageOf
  rw [h.stage.lookup_eq]

theorem Rehash.last_eq {self self' : IdleDetector} (h : Rehash self self') (seatId : String) :
    self'.tracker.lastActivity.lookup seatId = self.tracker.lastActivity.lookup seatId :=
  h.lastActivity.lookup_eq seatId

namespace Calls

variable {self self' : IdleDetector} {seatId : String} {now : Instant} {policy : IdlePolicy}

theorem stageOf_recordActivity (h : self.Calls (.recordActivity seatId now) self') (k : String) :
    self'.stageOf k = if k = seatId then .active else self.stageOf k := by
  rw [Rehash.stageOf_eq h]
  simp only [after, recordActivity, stageOf, Table.lookup_insert_eq]
  split <;> rfl

theorem last_recordActivity (h : self.Calls (.recordActivity seatId now) self') (k : String) :
    self'.tracker.lastActivity.lookup k
      = if k = seatId then some now else self.tracker.lastActivity.lookup k := by
  rw [Rehash.last_eq h]
  exact Table.lookup_insert_eq ..

theorem stageOf_tick (h : self.Calls (.tick now policy) self') (k : String) :
    self'.stageOf k
      = if k ∈ self.tracker.seats then policy.stageFor (self.tracker.idleFor k now)
        else self.stageOf k := by
  rw [Rehash.stageOf_eq h]
  exact self.tick_stageOf now policy k

theorem last_tick (h : self.Calls (.tick now policy) self') (k : String) :
    self'.tracker.lastActivity.lookup k = self.tracker.lastActivity.lookup k := by
  rw [Rehash.last_eq h]
  exact congrArg (fun tracker => AList.lookup k tracker.lastActivity)
    (self.tick_tracker now policy)

end Calls

end IdleDetector

/-! ## The consumer -/

/-- One stage change, as a consumer takes note of it. -/
def noteChange (known : String → IdleStage) (change : String × IdleStage) : String → IdleStage :=
  Function.update known change.1 change.2

/-- The last stage reported for each seat, `Active` if none was. -/
def lastReported (tr : List (Transition IdleDetector IdleCall)) : String → IdleStage :=
  (tr.flatMap fun x => x.pre.reports x.label).foldl noteChange fun _ => .active

theorem lastReported_concat (tr : List (Transition IdleDetector IdleCall))
    (x : Transition IdleDetector IdleCall) :
    lastReported (tr ++ [x]) = (x.pre.reports x.label).foldl noteChange (lastReported tr) := by
  simp only [lastReported, List.flatMap_append, List.flatMap_singleton, List.foldl_append]

/-- Taking note of the changes of one tick, which are a function of the seat. -/
theorem foldl_noteChange_map (f : String → IdleStage) (seats : List String)
    (known : String → IdleStage) (k : String) :
    (seats.map fun k => (k, f k)).foldl noteChange known k
      = if k ∈ seats then f k else known k := by
  induction seats generalizing known with
  | nil => simp
  | cons seat rest ih =>
      rw [List.map_cons, List.foldl_cons, ih]
      by_cases hk : k = seat
      · subst hk
        simp [noteChange]
      · simp [noteChange, hk]

/-- After a tick the consumer knows the stage of a seat it was right about, or of one whose stage
    the tick has changed. -/
theorem lastReported_tick (tr : List (Transition IdleDetector IdleCall))
    {x : Transition IdleDetector IdleCall} {now : Instant} {policy : IdlePolicy}
    (hx : x.label = .tick now policy) (k : String) :
    lastReported (tr ++ [x]) k
      = if k ∈ x.pre.tracker.seats
          ∧ x.pre.stageOf k ≠ policy.stageFor (x.pre.tracker.idleFor k now) then
          policy.stageFor (x.pre.tracker.idleFor k now)
        else lastReported tr k := by
  rw [lastReported_concat, hx]
  simp only [IdleDetector.reports, IdleDetector.tick_changes, foldl_noteChange_map,
    List.mem_filter, decide_eq_true_eq]

/-! ## Activity behind the consumer's back -/

/-- The step is a tick. -/
def IsTick (x : Transition IdleDetector IdleCall) : Prop :=
  ∃ now policy, x.label = .tick now policy

/-- The step is input on a seat that is not `Active`. -/
def Wakes (seatId : String) (x : Transition IdleDetector IdleCall) : Prop :=
  (∃ now, x.label = .recordActivity seatId now) ∧ x.pre.stageOf seatId ≠ .active

/-- Such input came since the last tick. -/
def Woken (tr : List (Transition IdleDetector IdleCall)) (seatId : String) : Prop :=
  Since (Wakes seatId) (fun x => ¬ IsTick x) tr

/-- The consumer is right about every seat that was not woken since the last tick, and about no
    other. -/
structure Tells (tr : List (Transition IdleDetector IdleCall)) (m : IdleDetector) : Prop where
  right : ∀ seatId, ¬ Woken tr seatId → lastReported tr seatId = m.stageOf seatId
  woken : ∀ seatId, Woken tr seatId →
    seatId ∈ m.tracker.seats ∧ m.stageOf seatId = .active ∧ lastReported tr seatId ≠ .active

namespace Tells

variable {tr : List (Transition IdleDetector IdleCall)} {m m' : IdleDetector}

theorem nil : Tells [] {} := by
  refine ⟨fun _ _ => rfl, fun seatId hwoken => ?_⟩
  obtain ⟨l₁, x, l₂, hnil, -⟩ := hwoken
  simp at hnil

theorem not_woken_of_tick {x : Transition IdleDetector IdleCall} (hx : IsTick x)
    (seatId : String) : ¬ Woken (tr ++ [x]) seatId := by
  intro hwoken
  exact (since_concat_iff.1 hwoken).1 hx

/-- Input moves a seat among the woken, unless it was `Active`. -/
theorem recordActivity {seatId : String} {now : Instant} (h : Tells tr m)
    (hcall : m.Calls (.recordActivity seatId now) m') :
    Tells (tr ++ [⟨m, .recordActivity seatId now, m'⟩]) m' := by
  have hknown : lastReported (tr ++ [⟨m, .recordActivity seatId now, m'⟩]) = lastReported tr := by
    rw [lastReported_concat]
    rfl
  have hwoken : ∀ k, Woken (tr ++ [⟨m, .recordActivity seatId now, m'⟩]) k ↔
      (k = seatId ∧ m.stageOf k ≠ .active) ∨ Woken tr k := by
    intro k
    rw [Woken, since_concat_iff]
    have hnot : ¬ IsTick (⟨m, .recordActivity seatId now, m'⟩ :
        Transition IdleDetector IdleCall) := by
      rintro ⟨_, _, hlabel⟩
      cases hlabel
    have hwakes : Wakes k ⟨m, .recordActivity seatId now, m'⟩ ↔
        k = seatId ∧ m.stageOf k ≠ .active := by
      simp [Wakes, eq_comm]
    rw [hwakes]
    exact and_iff_right hnot
  have hseats : ∀ k, k ∈ m'.tracker.seats ↔ k = seatId ∨ k ∈ m.tracker.seats := by
    intro k
    rw [IdleTracker.mem_seats, hcall.last_recordActivity, IdleTracker.mem_seats]
    by_cases hk : k = seatId <;> simp [hk]
  refine ⟨fun k hk => ?_, fun k hk => ?_⟩
  · rw [hwoken, not_or] at hk
    rw [hknown, hcall.stageOf_recordActivity, h.right k hk.2]
    split
    · rename_i heq
      by_contra hactive
      exact hk.1 ⟨heq, hactive⟩
    · rfl
  · rw [hknown, hcall.stageOf_recordActivity, hseats]
    rcases (hwoken k).1 hk with ⟨rfl, hactive⟩ | hold
    · refine ⟨Or.inl rfl, if_pos rfl, ?_⟩
      -- a seat that is not active was not woken before, so the consumer knew its stage
      have hnot : ¬ Woken tr k := fun hold => hactive (h.woken k hold).2.1
      rw [h.right k hnot]
      exact hactive
    · obtain ⟨hmem, hactive, hlast⟩ := h.woken k hold
      refine ⟨Or.inr hmem, ?_, hlast⟩
      split
      · rfl
      · exact hactive

/-- After a tick the consumer is right about a seat unless the seat was woken and is not idle
    enough to be reported again. -/
theorem tick_iff {now : Instant} {policy : IdlePolicy} (h : Tells tr m)
    (hcall : m.Calls (.tick now policy) m') (k : String) :
    lastReported (tr ++ [⟨m, .tick now policy, m'⟩]) k = m'.stageOf k ↔
      (Woken tr k → policy.stageFor (m.tracker.idleFor k now) ≠ .active) := by
  rw [lastReported_tick tr rfl, hcall.stageOf_tick]
  by_cases hwoken : Woken tr k
  · obtain ⟨hmem, hactive, hlast⟩ := h.woken k hwoken
    simp only [hmem, hactive, true_and, if_true, hwoken, forall_const]
    by_cases hnew : policy.stageFor (m.tracker.idleFor k now) = .active
    · simp only [hnew, ne_eq, not_true, if_false]
      exact iff_of_false hlast id
    · rw [if_pos (Ne.symm hnew)]
      exact iff_of_true rfl hnew
  · refine iff_of_true ?_ (fun hw => absurd hw hwoken)
    rw [h.right k hwoken]
    by_cases hmem : k ∈ m.tracker.seats
    · by_cases hsame : m.stageOf k = policy.stageFor (m.tracker.idleFor k now)
      · simp [hmem, hsame]
      · simp [hmem, hsame]
    · simp [hmem]

/-- A call keeps the consumer as right as it can be exactly if it is no tick, or a tick after which
    the consumer is right about every seat. -/
theorem step_iff {call : IdleCall} (h : Tells tr m) (hcall : m.Calls call m') :
    Tells (tr ++ [⟨m, call, m'⟩]) m' ↔
      (IsTick ⟨m, call, m'⟩ → ∀ k, lastReported (tr ++ [⟨m, call, m'⟩]) k = m'.stageOf k) := by
  cases call with
  | recordActivity seatId now =>
      refine iff_of_true (h.recordActivity hcall) ?_
      rintro ⟨_, _, hlabel⟩
      cases hlabel
  | tick now policy =>
      have htick : IsTick (⟨m, .tick now policy, m'⟩ : Transition IdleDetector IdleCall) :=
        ⟨now, policy, rfl⟩
      constructor
      · intro htells _ k
        exact htells.right k (not_woken_of_tick htick k)
      · intro hright
        exact ⟨fun k _ => hright htick k, fun k hk => absurd hk (not_woken_of_tick htick k)⟩

end Tells

/-- After every tick of a run, whoever has only followed the reported changes knows the stage of
    every seat, exactly if no tick comes upon a seat that had input while it was not `Active`,
    since the tick before, and that is still within its first threshold. -/
theorem tick_tells_stages_iff {tr : List (Transition IdleDetector IdleCall)} {m : IdleDetector}
    (h : Run IdleDetector.Calls {} tr m) :
    (∀ tr₁ x tr₂, tr = tr₁ ++ x :: tr₂ → IsTick x →
        ∀ seatId, lastReported (tr₁ ++ [x]) seatId = x.post.stageOf seatId) ↔
      ∀ tr₁ x tr₂, tr = tr₁ ++ x :: tr₂ → ∀ now policy, x.label = .tick now policy →
        ∀ seatId, Woken tr₁ seatId →
          policy.stageFor (x.pre.tracker.idleFor seatId now) ≠ .active := by
  have hright := h.forall_history_iff (P := Tells) Tells.nil
    (G := fun tr x => IsTick x → ∀ k, lastReported (tr ++ [x]) k = x.post.stageOf k)
    fun _ _ _ _ _ htells hcall => htells.step_iff hcall
  have hexact := h.forall_history_iff (P := Tells) Tells.nil
    (G := fun tr x => ∀ now policy, x.label = .tick now policy → ∀ k, Woken tr k →
      policy.stageFor (x.pre.tracker.idleFor k now) ≠ .active)
    fun tr m call m' _ htells hcall => by
      rw [htells.step_iff hcall]
      constructor
      · rintro hknown now policy rfl k
        exact (htells.tick_iff hcall k).1 (hknown ⟨now, policy, rfl⟩ k)
      · rintro hcond ⟨now, policy, rfl⟩ k
        exact (htells.tick_iff hcall k).2 (hcond now policy rfl k)
  exact hright.symm.trans hexact

/-- The thresholds the detector's own tests use. -/
def dimPolicy : IdlePolicy :=
  { dimAfter := Duration.fromSecs 10
    lockAfter := Duration.fromSecs 20
    suspendAfter := Duration.fromSecs 30 }

/-- A seat that has been quiet for 15 seconds is reported as dimmed, and that is what it is. -/
theorem tick_tells_stages_dimmed :
    ∃ (tr : List (Transition IdleDetector IdleCall)) (m : IdleDetector),
      Run IdleDetector.Calls {} tr m ∧ lastReported tr "seat0" = .dimmed
        ∧ ∀ tr₁ x tr₂, tr = tr₁ ++ x :: tr₂ → IsTick x →
          ∀ seatId, lastReported (tr₁ ++ [x]) seatId = x.post.stageOf seatId := by
  have hrehash : ∀ m : IdleDetector, m.Rehash m := fun m => ⟨List.Perm.refl _, List.Perm.refl _⟩
  have hrun : Run IdleDetector.Calls {} _ _ :=
    (Run.single (l := .recordActivity "seat0" 0) (hrehash _)).snoc
      (l := .tick (Duration.fromSecs 15) dimPolicy) (hrehash _)
  refine ⟨_, _, hrun, by decide, (tick_tells_stages_iff hrun).2 ?_⟩
  -- the only input comes while the seat is active
  rintro tr₁ x tr₂ htr now policy - seatId ⟨l₁, y, l₂, rfl, ⟨⟨_, hy⟩, hstage⟩, -⟩
  have hmem : y ∈ (l₁ ++ y :: l₂) ++ x :: tr₂ := by simp
  rw [← htr] at hmem
  simp only [List.singleton_append, List.mem_cons, List.not_mem_nil, or_false] at hmem
  rcases hmem with rfl | rfl
  · exact absurd rfl hstage
  · cases hy

/-- The seat dims, sees input and is `Active` again; the last report still says `Dimmed`. -/
theorem tick_keeps_waking_quiet :
    ¬ ∀ (tr : List (Transition IdleDetector IdleCall)) (m : IdleDetector),
      Run IdleDetector.Calls {} tr m → ∀ tr₁ x tr₂, tr = tr₁ ++ x :: tr₂ → IsTick x →
        ∀ seatId, lastReported (tr₁ ++ [x]) seatId = x.post.stageOf seatId := by
  intro hall
  have hrehash : ∀ m : IdleDetector, m.Rehash m := fun m => ⟨List.Perm.refl _, List.Perm.refl _⟩
  have hrun : Run IdleDetector.Calls {} _ _ :=
    (((Run.single (l := .recordActivity "seat0" 0) (hrehash _)).snoc
      (l := .tick (Duration.fromSecs 15) dimPolicy) (hrehash _)).snoc
      (l := .recordActivity "seat0" (Duration.fromSecs 16)) (hrehash _)).snoc
      (l := .tick (Duration.fromSecs 17) dimPolicy) (hrehash _)
  have hlast := hall _ _ hrun _ _ [] rfl ⟨_, _, rfl⟩ "seat0"
  revert hlast
  decide

end MitosSession
