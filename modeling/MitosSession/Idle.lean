import MitosSession.Library.Loop
import MitosSession.Library.Table
import MitosSession.Config

set_option autoImplicit false

/-! # Idle detection

`idle/`: the thresholds (`IdlePolicy`), the last activity of each seat (`IdleTracker`) and the
detector that turns both into stage changes. -/

namespace MitosSession

/-- `idle::IdleStage`. -/
inductive IdleStage where
  | active
  | dimmed
  | lockRequested
  | suspendRequested
deriving DecidableEq

/-- `idle::IdlePolicy`. -/
structure IdlePolicy where
  dimAfter : Duration
  lockAfter : Duration
  suspendAfter : Duration
deriving DecidableEq

/-- `IdlePolicy::from`. -/
def IdlePolicy.from (s : IdleSettings) : IdlePolicy :=
  { dimAfter := Duration.fromSecs s.dimAfterSecs
    lockAfter := Duration.fromSecs s.lockAfterSecs
    suspendAfter := Duration.fromSecs s.suspendAfterSecs }

/-- `IdlePolicy::stage_for`. A threshold of zero disables its stage. -/
def IdlePolicy.stageFor (self : IdlePolicy) (idleFor : Duration) : IdleStage :=
  let reaches (threshold : Duration) : Bool := threshold > 0 ∧ idleFor ≥ threshold
  if reaches self.suspendAfter then .suspendRequested
  else if reaches self.lockAfter then .lockRequested
  else if reaches self.dimAfter then .dimmed
  else .active

/-- `idle::IdleTracker`. -/
structure IdleTracker where
  lastActivity : Table String Instant := ∅

namespace IdleTracker

/-- `IdleTracker::record_activity`. -/
def recordActivity (self : IdleTracker) (seatId : String) (now : Instant) : IdleTracker :=
  { lastActivity := self.lastActivity.insert seatId now }

/-- `IdleTracker::idle_for`; the difference saturates at zero. -/
def idleFor (self : IdleTracker) (seatId : String) (now : Instant) : Duration :=
  match self.lastActivity.lookup seatId with
  | some last => now - last
  | none => 0

/-- `IdleTracker::seats`. -/
def seats (self : IdleTracker) : List String :=
  self.lastActivity.keys

theorem mem_seats {self : IdleTracker} {seatId : String} :
    seatId ∈ self.seats ↔ ∃ last, self.lastActivity.lookup seatId = some last :=
  AList.mem_keys.symm.trans Table.mem_iff_lookup

end IdleTracker

/-- `idle::IdleDetector`. -/
structure IdleDetector where
  tracker : IdleTracker := {}
  stage : Table String IdleStage := ∅

namespace IdleDetector

/-- `IdleDetector::record_activity`. -/
def recordActivity (self : IdleDetector) (seatId : String) (now : Instant) : IdleDetector :=
  { tracker := self.tracker.recordActivity seatId now
    stage := self.stage.insert seatId .active }

/-- `IdleDetector::stage`. -/
def stageOf (self : IdleDetector) (seatId : String) : IdleStage :=
  (self.stage.lookup seatId).getD .active

/-- One round of the loop of `IdleDetector::tick`, for one seat. -/
def tickSeat (now : Instant) (policy : IdlePolicy) (self : IdleDetector) (seatId : String) :
    IdleDetector × List (String × IdleStage) :=
  let newStage := policy.stageFor (self.tracker.idleFor seatId now)
  ({ self with stage := self.stage.insert seatId newStage },
    if self.stageOf seatId ≠ newStage then [(seatId, newStage)] else [])

/-- `IdleDetector::tick`: the detector, and the seats whose stage changed. -/
def tick (self : IdleDetector) (now : Instant) (policy : IdlePolicy) :
    IdleDetector × List (String × IdleStage) :=
  forEach (tickSeat now policy) self self.tracker.seats

/-- What one pass over distinct seats does: each gets the stage of its idle time, and those whose
    stage that changes are reported. -/
theorem forEach_tickSeat (now : Instant) (policy : IdlePolicy) {seats : List String}
    (hseats : seats.Nodup) (self : IdleDetector) :
    let ticked := forEach (tickSeat now policy) self seats
    (∀ k, ticked.1.stageOf k
        = if k ∈ seats then policy.stageFor (self.tracker.idleFor k now) else self.stageOf k)
      ∧ ∀ k stage, (k, stage) ∈ ticked.2 ↔
        k ∈ seats ∧ stage = policy.stageFor (self.tracker.idleFor k now)
          ∧ self.stageOf k ≠ stage := by
  induction seats generalizing self with
  | nil => simp
  | cons seat rest ih =>
      obtain ⟨hnotMem, hrest⟩ := List.nodup_cons.1 hseats
      obtain ⟨hstage, hchanges⟩ := ih hrest (tickSeat now policy self seat).1
      have hseat : ∀ k, (tickSeat now policy self seat).1.stageOf k
          = if k = seat then policy.stageFor (self.tracker.idleFor seat now)
            else self.stageOf k := by
        intro k
        simp only [tickSeat, stageOf, Table.lookup_insert_eq]
        split <;> rfl
      have htracker : (tickSeat now policy self seat).1.tracker = self.tracker := rfl
      simp only [htracker, hseat] at hstage hchanges
      simp only [forEach_cons]
      refine ⟨fun k => ?_, fun k stage => ?_⟩
      · rw [hstage]
        by_cases hk : k = seat
        · subst hk
          simp [hnotMem]
        · simp [hk]
      · rw [List.mem_append, hchanges]
        by_cases hk : k = seat
        · subst hk
          simp only [hnotMem, false_and, or_false, List.mem_cons, true_and, tickSeat]
          split
          · rename_i hchanged
            simp only [List.mem_singleton, Prod.mk.injEq, true_and]
            constructor
            · rintro rfl
              exact ⟨rfl, hchanged⟩
            · exact And.left
          · rename_i hsame
            simp only [List.not_mem_nil, false_iff, not_and, not_not]
            rintro rfl
            simpa using hsame
        · simp only [hk, if_false, List.mem_cons, false_or, tickSeat]
          split <;> simp [hk]

theorem tick_tracker (self : IdleDetector) (now : Instant) (policy : IdlePolicy) :
    (self.tick now policy).1.tracker = self.tracker := by
  have hloop : ∀ (seats : List String) (self : IdleDetector),
      (forEach (tickSeat now policy) self seats).1.tracker = self.tracker := by
    intro seats
    induction seats with
    | nil => exact fun _ => rfl
    | cons seat rest ih => exact fun self => ih (tickSeat now policy self seat).1
  exact hloop _ _

theorem tick_stageOf (self : IdleDetector) (now : Instant) (policy : IdlePolicy) (k : String) :
    (self.tick now policy).1.stageOf k
      = if k ∈ self.tracker.seats then policy.stageFor (self.tracker.idleFor k now)
        else self.stageOf k :=
  (forEach_tickSeat now policy self.tracker.lastActivity.keys_nodup self).1 k

theorem mem_tick (self : IdleDetector) (now : Instant) (policy : IdlePolicy) {k : String}
    {stage : IdleStage} :
    (k, stage) ∈ (self.tick now policy).2 ↔
      k ∈ self.tracker.seats ∧ stage = policy.stageFor (self.tracker.idleFor k now)
        ∧ self.stageOf k ≠ stage :=
  (forEach_tickSeat now policy self.tracker.lastActivity.keys_nodup self).2 k stage

/-- The stage changes of a tick: one for each seat whose stage is not that of its idle time. -/
theorem tick_changes (self : IdleDetector) (now : Instant) (policy : IdlePolicy) :
    (self.tick now policy).2
      = (self.tracker.seats.filter fun k =>
          self.stageOf k ≠ policy.stageFor (self.tracker.idleFor k now)).map
        fun k => (k, policy.stageFor (self.tracker.idleFor k now)) := by
  have hloop : ∀ (seats : List String) (self : IdleDetector), seats.Nodup →
      (forEach (tickSeat now policy) self seats).2
        = (seats.filter fun k =>
            self.stageOf k ≠ policy.stageFor (self.tracker.idleFor k now)).map
          fun k => (k, policy.stageFor (self.tracker.idleFor k now)) := by
    intro seats
    induction seats with
    | nil => exact fun _ _ => rfl
    | cons seat rest ih =>
        intro self hseats
        obtain ⟨hnotMem, hrest⟩ := List.nodup_cons.1 hseats
        -- the round for `seat` leaves the stages of the others alone
        have hothers : ∀ k ∈ rest,
            (tickSeat now policy self seat).1.stageOf k = self.stageOf k := by
          intro k hk
          have hne : k ≠ seat := fun heq => hnotMem (heq ▸ hk)
          simp [tickSeat, stageOf, hne]
        rw [forEach_cons, ih _ hrest]
        have hfilter := List.filter_congr (l := rest)
          (p := fun k => decide ((tickSeat now policy self seat).1.stageOf k
            ≠ policy.stageFor (self.tracker.idleFor k now)))
          (q := fun k => decide (self.stageOf k ≠ policy.stageFor (self.tracker.idleFor k now)))
          fun k hk => by rw [hothers k hk]
        have htracker : (tickSeat now policy self seat).1.tracker = self.tracker := rfl
        rw [htracker, hfilter]
        by_cases hchanged : self.stageOf seat ≠ policy.stageFor (self.tracker.idleFor seat now)
        · rw [List.filter_cons_of_pos (by simpa using hchanged), List.map_cons]
          simp only [tickSeat, if_pos hchanged]
          rfl
        · rw [List.filter_cons_of_neg (by simpa using hchanged)]
          simp only [tickSeat, if_neg hchanged]
          rfl
  exact hloop _ _ self.tracker.lastActivity.keys_nodup

/-- The same detector under two iteration orders. -/
structure Rehash (m m' : IdleDetector) : Prop where
  lastActivity : Table.Rehash m.tracker.lastActivity m'.tracker.lastActivity
  stage : Table.Rehash m.stage m'.stage

end IdleDetector

end MitosSession
