import MitosSession.Idle.Reports
import Mathlib.Order.Basic

set_option autoImplicit false

/-! # Idle stages escalate

Under one policy and a clock that does not go back, the stages of a seat go up until the next
input. `IdlePolicy.stageFor_mono` is the reason, for thresholds in any order; `Escalates` carries
it along runs, together with the reports since the last input, of which the stage is the last.
Every seat goes through this on its own: `seatView` is all of the detector that a seat depends
on, and a call on another seat does not touch it. -/

namespace MitosSession

namespace IdleStage

/-- The position of a stage in the derived order of `idle::IdleStage`. -/
def rank : IdleStage → ℕ
  | .active => 0
  | .dimmed => 1
  | .lockRequested => 2
  | .suspendRequested => 3

theorem rank_injective : Function.Injective rank := by
  intro a b
  cases a <;> cases b <;> simp [rank]

instance : LinearOrder IdleStage := LinearOrder.lift' rank rank_injective

theorem active_le (stage : IdleStage) : .active ≤ stage :=
  Nat.zero_le stage.rank

end IdleStage

namespace IdlePolicy

/-- The threshold of a stage, if it has one. -/
def threshold (self : IdlePolicy) : IdleStage → Option Duration
  | .active => none
  | .dimmed => some self.dimAfter
  | .lockRequested => some self.lockAfter
  | .suspendRequested => some self.suspendAfter

/-- A stage other than `Active` is only entered through its own threshold, which is not zero. -/
theorem threshold_of_stageFor (self : IdlePolicy) (idleFor : Duration) (t : Duration)
    (h : self.threshold (self.stageFor idleFor) = some t) : 0 < t ∧ t ≤ idleFor := by
  revert h
  simp only [stageFor, decide_eq_true_eq]
  split_ifs with hsuspend hlock hdim
  · rintro ⟨⟩
    exact hsuspend
  · rintro ⟨⟩
    exact hlock
  · rintro ⟨⟩
    exact hdim
  · rintro ⟨⟩

/-- Waiting longer never goes back a stage, whatever the thresholds are. -/
theorem stageFor_mono (self : IdlePolicy) {idle idle' : Duration} (h : idle ≤ idle') :
    self.stageFor idle ≤ self.stageFor idle' := by
  have hreach : ∀ t : Duration, t > 0 ∧ idle ≥ t → t > 0 ∧ idle' ≥ t :=
    fun t ht => ⟨ht.1, ht.2.trans h⟩
  simp only [stageFor, decide_eq_true_eq]
  by_cases hsuspend : self.suspendAfter > 0 ∧ idle ≥ self.suspendAfter
  · rw [if_pos hsuspend, if_pos (hreach _ hsuspend)]
  rw [if_neg hsuspend]
  by_cases hlock : self.lockAfter > 0 ∧ idle ≥ self.lockAfter
  · rw [if_pos hlock, if_pos (hreach _ hlock)]
    split <;> decide
  rw [if_neg hlock]
  by_cases hdim : self.dimAfter > 0 ∧ idle ≥ self.dimAfter
  · rw [if_pos hdim, if_pos (hreach _ hdim)]
    split_ifs <;> decide
  · rw [if_neg hdim]
    exact IdleStage.active_le _

theorem stageFor_zero (self : IdlePolicy) : self.stageFor 0 = .active := by
  have hnot : ∀ t : Duration, ¬ (t > 0 ∧ 0 ≥ t) := fun t ht => Nat.not_lt.2 ht.2 ht.1
  simp only [stageFor, decide_eq_true_eq, if_neg (hnot _)]

end IdlePolicy

/-! ## Histories -/

/-- When a call is made. -/
def IdleCall.now : IdleCall → Instant
  | .recordActivity _ now => now
  | .tick now _ => now

/-- The step is input on the seat, at `t`. -/
def InputAt (seatId : String) (t : Instant) (x : Transition IdleDetector IdleCall) : Prop :=
  x.label = .recordActivity seatId t

/-- The times of the calls do not go back. -/
def Chronological (tr : List (Transition IdleDetector IdleCall)) : Prop :=
  tr.Pairwise fun x y => x.label.now ≤ y.label.now

/-- Every tick is under `policy`. -/
def UnderPolicy (policy : IdlePolicy) (tr : List (Transition IdleDetector IdleCall)) : Prop :=
  ∀ x ∈ tr, ∀ now policy', x.label = .tick now policy' → policy' = policy

/-- The stages a call reports for a seat. -/
def reportsFor (seatId : String) (x : Transition IdleDetector IdleCall) : List IdleStage :=
  (x.pre.reports x.label).filterMap fun change =>
    if change.1 = seatId then some change.2 else none

/-- The call is input on the seat. -/
def IdleCall.isInputOn (seatId : String) : IdleCall → Bool
  | .recordActivity seatId' _ => seatId' = seatId
  | .tick _ _ => false

/-- The stages reported for a seat since its last input. -/
def reportedSince (seatId : String) (tr : List (Transition IdleDetector IdleCall)) :
    List IdleStage :=
  (tr.rtakeWhile fun x => !x.label.isInputOn seatId).flatMap (reportsFor seatId)

theorem isInputOn_iff {seatId : String} {x : Transition IdleDetector IdleCall} :
    x.label.isInputOn seatId = true ↔ ∃ t, InputAt seatId t x := by
  unfold InputAt
  cases x.label with
  | recordActivity seatId' t => simp [IdleCall.isInputOn]
  | tick now policy => simp [IdleCall.isInputOn]

theorem reportedSince_concat (seatId : String) (tr : List (Transition IdleDetector IdleCall))
    (x : Transition IdleDetector IdleCall) :
    reportedSince seatId (tr ++ [x])
      = if x.label.isInputOn seatId then []
        else reportedSince seatId tr ++ reportsFor seatId x := by
  unfold reportedSince
  rw [List.rtakeWhile_concat]
  cases x.label.isInputOn seatId with
  | true => rfl
  | false => simp

/-- What is reported in a stretch without input is the end of what is reported since the last. -/
theorem sublist_reportedSince {seatId : String} {tr mid : List (Transition IdleDetector IdleCall)}
    (h : ∀ x ∈ mid, ∀ t, ¬ InputAt seatId t x) :
    (mid.flatMap (reportsFor seatId)).Sublist (reportedSince seatId (tr ++ mid)) := by
  induction mid using List.reverseRecOn with
  | nil => exact List.nil_sublist _
  | append_singleton mid x ih =>
      rw [List.forall_mem_append, List.forall_mem_singleton] at h
      have hx : ¬ x.label.isInputOn seatId = true := by
        rw [isInputOn_iff]
        rintro ⟨t, ht⟩
        exact h.2 t ht
      rw [← List.append_assoc, reportedSince_concat, if_neg hx, List.flatMap_append,
        List.flatMap_singleton]
      exact (ih h.1).append (List.Sublist.refl _)

private theorem filterMap_eq_of_nodup {α β : Type} [DecidableEq α] (f : α → β) (a : α) {l : List α}
    (h : l.Nodup) :
    (l.filterMap fun k => if k = a then some (f k) else none) = if a ∈ l then [f a] else [] := by
  induction l with
  | nil => rfl
  | cons k rest ih =>
      obtain ⟨hnotMem, hrest⟩ := List.nodup_cons.1 h
      by_cases hk : k = a
      · subst hk
        simp [ih hrest, hnotMem]
      · simp [ih hrest, hk, Ne.symm hk]

/-- A tick reports one stage for a seat, the new one, if it changes it. -/
theorem reportsFor_tick (seatId : String) (m m' : IdleDetector) (now : Instant)
    (policy : IdlePolicy) :
    reportsFor seatId ⟨m, .tick now policy, m'⟩
      = if seatId ∈ m.tracker.seats
          ∧ m.stageOf seatId ≠ policy.stageFor (m.tracker.idleFor seatId now) then
          [policy.stageFor (m.tracker.idleFor seatId now)]
        else [] := by
  have hnodup : (m.tracker.seats.filter fun k =>
      decide (m.stageOf k ≠ policy.stageFor (m.tracker.idleFor k now))).Nodup :=
    m.tracker.lastActivity.keys_nodup.filter _
  simp only [reportsFor, IdleDetector.reports, IdleDetector.tick_changes, List.filterMap_map]
  refine (filterMap_eq_of_nodup _ seatId hnodup).trans ?_
  simp only [List.mem_filter, decide_eq_true_eq]

/-! ## The last input -/

/-- The tracker has the time of the last input on each seat. -/
theorem last_iff_latest {tr : List (Transition IdleDetector IdleCall)} {m : IdleDetector}
    (h : Run IdleDetector.Calls {} tr m) (seatId : String) (last : Instant) :
    m.tracker.lastActivity.lookup seatId = some last ↔ Latest (InputAt seatId) tr last := by
  refine h.history (P := fun tr m => m.tracker.lastActivity.lookup seatId = some last ↔
    Latest (InputAt seatId) tr last) ?_ ?_
  · refine iff_of_false (by simp) ?_
    rintro ⟨l₁, x, l₂, hnil, -⟩
    simp at hnil
  · intro tr m call m' _ ih hcall
    rw [latest_concat_iff]
    cases call with
    | recordActivity seatId' t =>
        rw [hcall.last_recordActivity]
        by_cases hseat : seatId = seatId'
        · subst hseat
          simp [InputAt]
        · simp [InputAt, hseat, Ne.symm hseat, ih]
    | tick now policy =>
        rw [hcall.last_tick]
        simp [InputAt, ih]

/-- The idle time of a seat. -/
theorem idleFor_of_last {tracker : IdleTracker} {seatId : String} {last : Instant}
    (h : tracker.lastActivity.lookup seatId = some last) (now : Instant) :
    tracker.idleFor seatId now = now - last := by
  simp only [IdleTracker.idleFor, h]

/-! ## The stages of one seat -/

section Escalation

variable {policy : IdlePolicy} {seatId : String} {tr : List (Transition IdleDetector IdleCall)}
  {m m' : IdleDetector}

/-- A seat under `policy` after `tr`: what is reported since its last input goes up, its stage is
    the last of that, and it has not gone ahead of its idle time. -/
structure Escalates (policy : IdlePolicy) (seatId : String)
    (tr : List (Transition IdleDetector IdleCall)) (m : IdleDetector) : Prop where
  due : ∀ last t, m.tracker.lastActivity.lookup seatId = some last →
    (∀ x ∈ tr, x.label.now ≤ t) → m.stageOf seatId ≤ policy.stageFor (t - last)
  rising : (.active :: reportedSince seatId tr).Pairwise (· < ·)
  latest : (.active :: reportedSince seatId tr).getLast? = some (m.stageOf seatId)

theorem Escalates.le_stage (h : Escalates policy seatId tr m) {stage : IdleStage}
    (hstage : stage ∈ .active :: reportedSince seatId tr) : stage ≤ m.stageOf seatId := by
  obtain ⟨init, hinit⟩ := List.getLast?_eq_some_iff.1 h.latest
  have hrising := h.rising
  rw [hinit] at hstage hrising
  rcases List.mem_append.1 hstage with hmem | hmem
  · exact ((List.pairwise_append.1 hrising).2.2 stage hmem _ (List.mem_singleton_self _)).le
  · exact (List.mem_singleton.1 hmem).le

/-- Input starts over. -/
theorem Escalates.input {t : Instant} (hcall : m.Calls (.recordActivity seatId t) m') :
    Escalates policy seatId (tr ++ [⟨m, .recordActivity seatId t, m'⟩]) m' := by
  have hstage : m'.stageOf seatId = .active := by
    rw [hcall.stageOf_recordActivity, if_pos rfl]
  have hnone : reportedSince seatId (tr ++ [⟨m, .recordActivity seatId t, m'⟩]) = [] := by
    rw [reportedSince_concat, if_pos (by simp [IdleCall.isInputOn])]
  refine ⟨fun last t _ _ => ?_, ?_, ?_⟩
  · rw [hstage]
    exact IdleStage.active_le _
  · rw [hnone]
    exact List.pairwise_singleton ..
  · rw [hnone, hstage]
    rfl

/-- A step that neither reports the seat nor writes it. -/
theorem Escalates.keep {x : Transition IdleDetector IdleCall} (h : Escalates policy seatId tr m)
    (hreport : reportedSince seatId (tr ++ [x]) = reportedSince seatId tr)
    (hstage : m'.stageOf seatId = m.stageOf seatId)
    (hlast : m'.tracker.lastActivity.lookup seatId = m.tracker.lastActivity.lookup seatId) :
    Escalates policy seatId (tr ++ [x]) m' := by
  refine ⟨fun last t hl ht => ?_, ?_, ?_⟩
  · rw [hlast] at hl
    rw [hstage]
    rw [List.forall_mem_append] at ht
    exact h.due last t hl ht.1
  · rw [hreport]
    exact h.rising
  · rw [hreport, hstage]
    exact h.latest

/-- A tick goes up or stays. -/
theorem Escalates.tick {now : Instant} (h : Escalates policy seatId tr m)
    (hcall : m.Calls (.tick now policy) m') (htime : ∀ x ∈ tr, x.label.now ≤ now) :
    Escalates policy seatId (tr ++ [⟨m, .tick now policy, m'⟩]) m' := by
  have hnot : ¬ (IdleCall.tick now policy).isInputOn seatId = true := by simp [IdleCall.isInputOn]
  cases hlast : m.tracker.lastActivity.lookup seatId with
  | none =>
      have hseat : seatId ∉ m.tracker.seats := by
        rw [IdleTracker.mem_seats, hlast]
        simp
      refine h.keep ?_ ?_ (hcall.last_tick seatId)
      · rw [reportedSince_concat, if_neg hnot, reportsFor_tick, if_neg fun hand => hseat hand.1,
          List.append_nil]
      · rw [hcall.stageOf_tick, if_neg hseat]
  | some last =>
      have hseat : seatId ∈ m.tracker.seats := IdleTracker.mem_seats.2 ⟨last, hlast⟩
      have hstage : m'.stageOf seatId = policy.stageFor (now - last) := by
        rw [hcall.stageOf_tick, if_pos hseat, idleFor_of_last hlast]
      have hle : m.stageOf seatId ≤ policy.stageFor (now - last) := h.due last now hlast htime
      by_cases hsame : m.stageOf seatId = policy.stageFor (now - last)
      · refine h.keep ?_ (hstage.trans hsame.symm) (hcall.last_tick seatId)
        rw [reportedSince_concat, if_neg hnot, reportsFor_tick, idleFor_of_last hlast,
          if_neg fun hand => hand.2 hsame, List.append_nil]
      · have hlt : m.stageOf seatId < policy.stageFor (now - last) := lt_of_le_of_ne hle hsame
        have hreport : reportedSince seatId (tr ++ [⟨m, .tick now policy, m'⟩])
            = reportedSince seatId tr ++ [policy.stageFor (now - last)] := by
          rw [reportedSince_concat, if_neg hnot, reportsFor_tick, idleFor_of_last hlast,
            if_pos ⟨hseat, hsame⟩]
        refine ⟨fun last' t hl ht => ?_, ?_, ?_⟩
        · rw [hcall.last_tick, hlast] at hl
          obtain rfl := Option.some.inj hl
          rw [hstage]
          have hnow : now ≤ t := ht _ (List.mem_append_right _ (List.mem_singleton_self _))
          exact policy.stageFor_mono (Nat.sub_le_sub_right hnow last)
        · rw [hreport, ← List.cons_append, List.pairwise_append]
          refine ⟨h.rising, List.pairwise_singleton .., fun stage hmem stage' hmem' => ?_⟩
          rw [List.mem_singleton.1 hmem']
          exact (h.le_stage hmem).trans_lt hlt
        · rw [hreport, ← List.cons_append, List.getLast?_append, hstage]
          rfl

theorem chronological_concat {x : Transition IdleDetector IdleCall} :
    Chronological (tr ++ [x]) ↔ Chronological tr ∧ ∀ y ∈ tr, y.label.now ≤ x.label.now := by
  unfold Chronological
  rw [List.pairwise_append]
  simp

theorem underPolicy_concat {x : Transition IdleDetector IdleCall} :
    UnderPolicy policy (tr ++ [x]) ↔ UnderPolicy policy tr
      ∧ ∀ now policy', x.label = .tick now policy' → policy' = policy := by
  unfold UnderPolicy
  rw [List.forall_mem_append, List.forall_mem_singleton]

theorem escalates_of_run (h : Run IdleDetector.Calls {} tr m) (htime : Chronological tr)
    (hpolicy : UnderPolicy policy tr) (seatId : String) : Escalates policy seatId tr m := by
  revert htime hpolicy
  refine h.history (P := fun tr m => Chronological tr → UnderPolicy policy tr →
    Escalates policy seatId tr m) ?_ ?_
  · intro _ _
    exact ⟨by simp, List.pairwise_singleton .., rfl⟩
  · intro tr m call m' _ ih hcall htime hpolicy
    rw [chronological_concat] at htime
    rw [underPolicy_concat] at hpolicy
    have hbefore := ih htime.1 hpolicy.1
    cases call with
    | recordActivity seatId' t =>
        by_cases hseat : seatId' = seatId
        · subst hseat
          exact Escalates.input hcall
        · refine hbefore.keep ?_ ?_ ?_
          · rw [reportedSince_concat, if_neg (by simp [IdleCall.isInputOn, hseat])]
            simp [reportsFor, IdleDetector.reports]
          · rw [hcall.stageOf_recordActivity, if_neg (Ne.symm hseat)]
          · rw [hcall.last_recordActivity, if_neg (Ne.symm hseat)]
    | tick now policy' =>
        obtain rfl := hpolicy.2 now policy' rfl
        exact hbefore.tick hcall htime.2

/-! ## Ticking twice -/

/-- Every seat has the stage of its idle time. -/
def Settled (policy : IdlePolicy) (now : Instant) (m : IdleDetector) : Prop :=
  ∀ seatId last, m.tracker.lastActivity.lookup seatId = some last →
    m.stageOf seatId = policy.stageFor (now - last)

theorem settled_tick {now : Instant} (hcall : m.Calls (.tick now policy) m') :
    Settled policy now m' := by
  intro seatId last hlast
  rw [hcall.last_tick] at hlast
  rw [hcall.stageOf_tick, if_pos (IdleTracker.mem_seats.2 ⟨last, hlast⟩), idleFor_of_last hlast]

/-- Input at the time of the tick leaves its seat where the tick would put it. -/
theorem Settled.input {now : Instant} (h : Settled policy now m)
    (hcall : m.Calls (.recordActivity seatId now) m') : Settled policy now m' := by
  intro k last hlast
  rw [hcall.last_recordActivity] at hlast
  rw [hcall.stageOf_recordActivity]
  split at hlast
  · rename_i heq
    obtain rfl := Option.some.inj hlast
    rw [if_pos heq, Nat.sub_self, policy.stageFor_zero]
  · rename_i hne
    rw [if_neg hne]
    exact h k last hlast

theorem Settled.reports_eq_nil {now : Instant} (h : Settled policy now m) :
    m.reports (.tick now policy) = [] := by
  simp only [IdleDetector.reports, IdleDetector.tick_changes, List.map_eq_nil_iff,
    List.filter_eq_nil_iff, decide_eq_true_eq, not_not]
  intro k hk
  obtain ⟨last, hlast⟩ := IdleTracker.mem_seats.1 hk
  rw [idleFor_of_last hlast]
  exact h k last hlast

/-- As long as it is the time of a tick that has been, the seats are settled. -/
theorem settled_of_run (h : Run IdleDetector.Calls {} tr m) (htime : Chronological tr)
    (hpolicy : UnderPolicy policy tr) {x : Transition IdleDetector IdleCall} {now : Instant}
    (hx : x ∈ tr) (htick : x.label = .tick now policy) (hlatest : ∀ y ∈ tr, y.label.now ≤ now) :
    Settled policy now m := by
  revert htime hpolicy hx hlatest
  refine h.history (P := fun tr m => Chronological tr → UnderPolicy policy tr → x ∈ tr →
    (∀ y ∈ tr, y.label.now ≤ now) → Settled policy now m) ?_ ?_
  · intro _ _ hx
    cases hx
  · intro tr m call m' _ ih hcall htime hpolicy hx hlatest
    rw [chronological_concat] at htime
    rw [underPolicy_concat] at hpolicy
    rw [List.forall_mem_append, List.forall_mem_singleton] at hlatest
    have hnow : call.now = now := by
      rcases List.mem_append.1 hx with hmem | hmem
      · refine Nat.le_antisymm hlatest.2 ?_
        have hle := htime.2 x hmem
        rwa [htick] at hle
      · obtain rfl := List.mem_singleton.1 hmem
        exact congrArg IdleCall.now htick
    cases call with
    | recordActivity seatId t =>
        obtain rfl : t = now := hnow
        -- a tick is no input, so it is among the steps before
        rcases List.mem_append.1 hx with hmem | hmem
        · exact (ih htime.1 hpolicy.1 hmem hlatest.1).input hcall
        · obtain rfl := List.mem_singleton.1 hmem
          cases htick
    | tick t policy' =>
        obtain rfl : t = now := hnow
        obtain rfl := hpolicy.2 t policy' rfl
        exact settled_tick hcall

end Escalation

/-! ## One seat by itself -/

/-- What the detector holds about one seat. -/
structure SeatView where
  last : Option Instant
  stage : IdleStage

def IdleDetector.seatView (self : IdleDetector) (seatId : String) : SeatView :=
  ⟨self.tracker.lastActivity.lookup seatId, self.stageOf seatId⟩

/-- The call concerns the seat: it is a tick, or input there. -/
def IdleCall.concerns (seatId : String) : IdleCall → Bool
  | .recordActivity seatId' _ => seatId' = seatId
  | .tick _ _ => true

namespace SeatView

/-- The detector of a single seat. -/
def after (self : SeatView) : IdleCall → SeatView
  | .recordActivity _ now => ⟨some now, .active⟩
  | .tick now policy =>
      match self.last with
      | some last => ⟨some last, policy.stageFor (now - last)⟩
      | none => self

/-- What it reports. -/
def reports (self : SeatView) : IdleCall → List IdleStage
  | .recordActivity _ _ => []
  | .tick now policy =>
      match self.last with
      | some last =>
          if self.stage ≠ policy.stageFor (now - last) then [policy.stageFor (now - last)] else []
      | none => []

end SeatView

theorem seatView_concerned {seatId : String} {call : IdleCall} {m m' : IdleDetector}
    (hcall : m.Calls call m') (h : call.concerns seatId = true) :
    m'.seatView seatId = (m.seatView seatId).after call
      ∧ reportsFor seatId ⟨m, call, m'⟩ = (m.seatView seatId).reports call := by
  unfold IdleDetector.seatView
  cases call with
  | recordActivity seatId' now =>
      obtain rfl : seatId' = seatId := by simpa [IdleCall.concerns] using h
      refine ⟨?_, rfl⟩
      rw [hcall.last_recordActivity, hcall.stageOf_recordActivity, if_pos rfl, if_pos rfl]
      rfl
  | tick now policy =>
      rw [hcall.last_tick, hcall.stageOf_tick, reportsFor_tick]
      cases hlast : m.tracker.lastActivity.lookup seatId with
      | none =>
          have hseat : seatId ∉ m.tracker.seats := by
            rw [IdleTracker.mem_seats, hlast]
            simp
          rw [if_neg hseat, if_neg fun hand => hseat hand.1]
          exact ⟨rfl, rfl⟩
      | some last =>
          have hseat : seatId ∈ m.tracker.seats := IdleTracker.mem_seats.2 ⟨last, hlast⟩
          rw [if_pos hseat, idleFor_of_last hlast]
          simp [SeatView.after, SeatView.reports, hseat]

theorem seatView_unconcerned {seatId : String} {call : IdleCall} {m m' : IdleDetector}
    (hcall : m.Calls call m') (h : call.concerns seatId = false) :
    m'.seatView seatId = m.seatView seatId := by
  unfold IdleDetector.seatView
  cases call with
  | recordActivity seatId' now =>
      have hne : seatId ≠ seatId' := by
        rintro rfl
        simp [IdleCall.concerns] at h
      rw [hcall.last_recordActivity, hcall.stageOf_recordActivity, if_neg hne, if_neg hne]
  | tick now policy => cases h

/-- The calls of a run that concern a seat. -/
def concerning (seatId : String) (tr : List (Transition IdleDetector IdleCall)) :
    List (Transition IdleDetector IdleCall) :=
  tr.filter fun x => x.label.concerns seatId

/-- What the detector holds about a seat and has reported for it follows from the calls that
    concern the seat. -/
theorem seatView_of_run {tr : List (Transition IdleDetector IdleCall)} {m : IdleDetector}
    (h : Run IdleDetector.Calls {} tr m) (seatId : String) :
    (m.seatView seatId, (concerning seatId tr).map (reportsFor seatId))
      = ((concerning seatId tr).map Transition.label).foldl
        (fun acc call => (acc.1.after call, acc.2 ++ [acc.1.reports call]))
        (⟨none, .active⟩, []) := by
  refine h.history (P := fun tr m =>
    (m.seatView seatId, (concerning seatId tr).map (reportsFor seatId))
      = ((concerning seatId tr).map Transition.label).foldl
        (fun acc call => (acc.1.after call, acc.2 ++ [acc.1.reports call]))
        (⟨none, .active⟩, [])) rfl ?_
  intro tr m call m' _ ih hcall
  unfold concerning at *
  rw [List.filter_append, List.filter_singleton]
  cases hconcerns : call.concerns seatId with
  | false =>
      simp only [cond_false, List.append_nil, ← ih, seatView_unconcerned hcall hconcerns]
  | true =>
      obtain ⟨hview, hreports⟩ := seatView_concerned hcall hconcerns
      simp only [cond_true, List.map_append, List.map_singleton, List.foldl_append, ← ih,
        List.foldl_cons, List.foldl_nil, hview, hreports]

/-! ## The run -/

/-- A stage whose threshold is zero is not reported. -/
theorem threshold_of_reported {policy : IdlePolicy} {x : Transition IdleDetector IdleCall}
    {seatId : String} {stage : IdleStage}
    (hpolicy : ∀ now policy', x.label = .tick now policy' → policy' = policy)
    (hstage : stage ∈ reportsFor seatId x) : policy.threshold stage ≠ some 0 := by
  intro hzero
  obtain ⟨m₁, call, m₂⟩ := x
  cases call with
  | recordActivity seatId' t => cases hstage
  | tick now policy' =>
      obtain rfl := hpolicy now policy' rfl
      rw [reportsFor_tick] at hstage
      split at hstage
      · obtain rfl := List.mem_singleton.1 hstage
        exact Nat.lt_irrefl 0 (policy'.threshold_of_stageFor _ 0 hzero).1
      · cases hstage

/-- Along every run under one policy with a clock that does not go back: after a tick every seat
    that ever had input has the stage of its idle time; between two inputs on a seat the stages
    reported for it go up; a stage whose threshold is zero is not reported; a second tick at the
    same time reports nothing; and what is reported for a seat follows from the calls that concern
    it. -/
theorem idle_stages_escalate {policy : IdlePolicy} {tr : List (Transition IdleDetector IdleCall)}
    {m : IdleDetector} (h : Run IdleDetector.Calls {} tr m) (htime : Chronological tr)
    (hpolicy : UnderPolicy policy tr) :
    (∀ tr₁ x tr₂, tr = tr₁ ++ x :: tr₂ → ∀ now, x.label = .tick now policy →
        ∀ seatId last, Latest (InputAt seatId) tr₁ last →
          x.post.stageOf seatId = policy.stageFor (now - last))
      ∧ (∀ seatId tr₁ mid tr₂, tr = tr₁ ++ mid ++ tr₂ → (∀ x ∈ mid, ∀ t, ¬ InputAt seatId t x) →
        (.active :: mid.flatMap (reportsFor seatId)).Pairwise (· < ·))
      ∧ (∀ x ∈ tr, ∀ seatId, ∀ stage ∈ reportsFor seatId x, policy.threshold stage ≠ some 0)
      ∧ (∀ tr₁ x mid y tr₂, tr = tr₁ ++ x :: mid ++ y :: tr₂ → ∀ now, x.label = .tick now policy →
        y.label = .tick now policy → y.pre.reports y.label = [])
      ∧ ∀ seatId tr' m', Run IdleDetector.Calls {} tr' m' →
        (concerning seatId tr').map Transition.label = (concerning seatId tr).map Transition.label →
        (concerning seatId tr').map (reportsFor seatId)
          = (concerning seatId tr).map (reportsFor seatId) := by
  refine ⟨?_, ?_, ?_, ?_, ?_⟩
  · intro tr₁ x tr₂ htr now hx seatId last hlast
    obtain ⟨hrun, hcall⟩ := h.split htr
    rw [hx] at hcall
    refine settled_tick hcall seatId last ?_
    rw [hcall.last_tick]
    exact (last_iff_latest hrun seatId last).2 hlast
  · intro seatId tr₁ mid tr₂ htr hmid
    obtain ⟨m₁, hrun⟩ := h.take htr
    have hsub : (tr₁ ++ mid).Sublist tr := htr ▸ List.sublist_append_left ..
    have hrising := (escalates_of_run hrun (htime.sublist hsub)
      (fun x hx => hpolicy x (hsub.subset hx)) seatId).rising
    exact hrising.sublist ((sublist_reportedSince hmid).cons_cons _)
  · intro x hx seatId stage hstage
    exact threshold_of_reported (hpolicy x hx) hstage
  · intro tr₁ x mid y tr₂ htr now hx hy
    obtain ⟨hrun, -⟩ := h.split htr
    have hbefore : (tr₁ ++ x :: mid).Sublist tr := htr ▸ List.sublist_append_left ..
    have hlatest : ∀ z ∈ tr₁ ++ x :: mid, z.label.now ≤ now := by
      intro z hz
      have hle := (List.pairwise_append.1 (htr ▸ htime)).2.2 z hz y (List.mem_cons_self ..)
      rwa [hy] at hle
    rw [hy]
    exact (settled_of_run hrun (htime.sublist hbefore) (fun z hz => hpolicy z (hbefore.subset hz))
      (List.mem_append_right _ (List.mem_cons_self ..)) hx hlatest).reports_eq_nil
  · intro seatId tr' m' hrun' hlabels
    have hview := seatView_of_run hrun' seatId
    rw [hlabels, ← seatView_of_run h seatId] at hview
    exact congrArg Prod.snd hview

/-- Quiet for 15 and then 25 seconds under the thresholds 10, 20 and 30: dimmed, then locked. -/
theorem idle_stages_escalate_quiet :
    ∃ (tr : List (Transition IdleDetector IdleCall)) (m : IdleDetector),
      Run IdleDetector.Calls {} tr m ∧ Chronological tr ∧ UnderPolicy dimPolicy tr
        ∧ tr.flatMap (reportsFor "seat0") = [.dimmed, .lockRequested]
        ∧ ∀ x ∈ tr, ∀ seatId, ∀ stage ∈ reportsFor seatId x,
          dimPolicy.threshold stage ≠ some 0 := by
  have hrehash : ∀ m : IdleDetector, m.Rehash m := fun m => ⟨List.Perm.refl _, List.Perm.refl _⟩
  have hrun : Run IdleDetector.Calls {} _ _ :=
    ((Run.single (l := .recordActivity "seat0" 0) (hrehash _)).snoc
      (l := .tick (Duration.fromSecs 15) dimPolicy) (hrehash _)).snoc
      (l := .tick (Duration.fromSecs 25) dimPolicy) (hrehash _)
  refine ⟨_, _, hrun, ?time, ?policy, by decide,
    (idle_stages_escalate hrun ?time ?policy).2.2.1⟩
  case time =>
    refine List.Pairwise.cons ?_ (List.Pairwise.cons ?_ (List.pairwise_singleton ..)) <;>
      simp [IdleCall.now, Duration.fromSecs]
  case policy =>
    refine underPolicy_concat.2 ⟨underPolicy_concat.2 ⟨?_, ?_⟩, ?_⟩
    · simp [UnderPolicy]
    · simp
    · simp

end MitosSession
