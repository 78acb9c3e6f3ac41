import MitosSession.Elevation.Lockout

set_option autoImplicit false

/-! # The prompts and their timers

The elevation manager keeps the open prompts and the timers of the open prompts in two tables. No
operation writes one without the other: a prompt is entered with its timer (`begin`), and prompts
and timers go together (`Narrows`), also in `expire_pending`, which takes the due timers out first
and the prompts afterwards. What holds along every run from `new` is `Bookkept`; what tearing
prompts down returns and leaves is `TornDown`.

`next_id` is a `u64` counter; the model's does not wrap, so the runs here are those that do not
exhaust it. -/

namespace MitosSession

/-- What is reported of a prompt that is torn down unanswered. -/
def PendingElevation.abandoned (self : PendingElevation) (id : ElevationRequestId) :
    AbandonedElevation :=
  { requestId := id
    sessionId := self.sessionId
    compositorConn := self.compositorConn
    requesterConn := self.requesterConn }

namespace ElevationManager

/-! ## Tearing prompts down -/

/-- Tearing prompts down turned `m` into `done.1` and reported `done.2`: exactly the prompts in
    `gone`, each once and as they were recorded; everything else is as it was. -/
structure TornDown (m : ElevationManager) (gone : ElevationRequestId → PendingElevation → Prop)
    (done : ElevationManager × List AbandonedElevation) : Prop where
  reported : ∀ a, a ∈ done.2 ↔ ∃ p, m.pending.lookup a.requestId = some p
    ∧ gone a.requestId p ∧ a = p.abandoned a.requestId
  once : (done.2.map AbandonedElevation.requestId).Nodup
  removed : ∀ id p, m.pending.lookup id = some p → gone id p →
    done.1.pending.lookup id = none ∧ done.1.timeouts.promptExpiry.lookup id = none
  untouched : ∀ id p, m.pending.lookup id = some p → ¬ gone id p →
    done.1.pending.lookup id = some p
      ∧ done.1.timeouts.promptExpiry.lookup id = m.timeouts.promptExpiry.lookup id
  others : ∀ id, m.pending.lookup id = none → done.1.pending.lookup id = none
  records : SameRecords m done.1

section

variable {m m' : ElevationManager}

/-- What `take_all` reports of distinct ids: the prompts that are open among them, in order. -/
theorem takeAll_reported {ids : List ElevationRequestId} (h : ids.Nodup) (m : ElevationManager) :
    (m.takeAll ids).2 = ids.filterMap fun id => (m.pending.lookup id).map (·.abandoned id) := by
  induction ids generalizing m with
  | nil => rfl
  | cons id rest ih =>
      rw [List.nodup_cons] at h
      have hrest : rest.filterMap (fun k => ((m.close id).pending.lookup k).map (·.abandoned k))
          = rest.filterMap fun k => (m.pending.lookup k).map (·.abandoned k) := by
        refine List.filterMap_congr fun k hk => ?_
        have hne : k ≠ id := fun heq => h.1 (heq ▸ hk)
        rw [close_pending, if_neg hne]
      have htail := ih h.2 (m.close id)
      rw [hrest] at htail
      have hsplit : (m.takeAll (id :: rest)).2
          = ((m.pending.lookup id).map (·.abandoned id)).toList ++ ((m.close id).takeAll rest).2 :=
        rfl
      rw [hsplit, htail, List.filterMap_cons]
      cases m.pending.lookup id with
      | none => rfl
      | some p => rfl

theorem requestIds_of_takeAll {ids : List ElevationRequestId} (h : ids.Nodup)
    (m : ElevationManager) :
    ((m.takeAll ids).2.map AbandonedElevation.requestId).Nodup := by
  rw [takeAll_reported h]
  have hids : (ids.filterMap fun id => (m.pending.lookup id).map (·.abandoned id)).map
      AbandonedElevation.requestId = ids.filter fun id => (m.pending.lookup id).isSome := by
    rw [List.map_filterMap, ← List.filterMap_eq_filter]
    refine List.filterMap_congr fun id _ => ?_
    cases hl : m.pending.lookup id with
    | none => simp [Option.guard, hl]
    | some p => simp [Option.guard, hl, PendingElevation.abandoned]
  rw [hids]
  exact h.filter _

/-- `take_all` of distinct ids, among whose prompts are exactly those in `gone`. -/
theorem takeAll_tornDown {ids : List ElevationRequestId}
    {gone : ElevationRequestId → PendingElevation → Prop} (hids : ids.Nodup)
    (h : ∀ id p, m.pending.lookup id = some p → (id ∈ ids ↔ gone id p)) :
    TornDown m gone (m.takeAll ids) := by
  obtain ⟨hpending, hexpiry, hsame⟩ := takeAll_spec ids m
  refine ⟨fun a => ?_, requestIds_of_takeAll hids m, fun id p hp hgone => ?_,
    fun id p hp hgone => ?_, fun id hnone => ?_, hsame⟩
  · rw [takeAll_reported hids, List.mem_filterMap]
    constructor
    · rintro ⟨id, hid, ha⟩
      obtain ⟨p, hp, rfl⟩ := Option.map_eq_some_iff.1 ha
      exact ⟨p, hp, (h id p hp).1 hid, rfl⟩
    · rintro ⟨p, hp, hgone, ha⟩
      refine ⟨a.requestId, (h _ p hp).2 hgone, ?_⟩
      rw [hp, Option.map_some, ← ha]
  · rw [hpending, hexpiry, if_pos ((h id p hp).2 hgone)]
    exact ⟨rfl, if_pos ((h id p hp).2 hgone)⟩
  · have hnot : id ∉ ids := fun hmem => hgone ((h id p hp).1 hmem)
    rw [hpending, hexpiry, if_neg hnot, if_neg hnot]
    exact ⟨hp, rfl⟩
  · rw [hpending, hnone, ite_self]

theorem abandonWhere_tornDown (m : ElevationManager) (predicate : PendingElevation → Bool) :
    TornDown m (fun _ p => predicate p = true) (m.abandonWhere predicate) := by
  refine takeAll_tornDown (Table.nodup_keysWhere _ _) fun id p hp => ?_
  rw [Table.mem_keysWhere, hp]
  simp

theorem abandonSession_tornDown (m : ElevationManager) (s : SessionId) :
    TornDown m (fun _ p => p.sessionId = s) (m.abandonSession s) := by
  have h := m.abandonWhere_tornDown fun p => decide (p.sessionId = s)
  simp only [decide_eq_true_eq] at h
  exact h

theorem abandonConnection_tornDown (m : ElevationManager) (c : ConnId) :
    TornDown m (fun _ p => p.compositorConn = c ∨ p.requesterConn = c)
      (m.abandonConnection c) := by
  have h := m.abandonWhere_tornDown fun p => decide (p.compositorConn = c ∨ p.requesterConn = c)
  simp only [decide_eq_true_eq] at h
  exact h

/-- The prompt's timer is due at `now`. -/
def DueAt (m : ElevationManager) (now : Instant) (id : ElevationRequestId) : Prop :=
  ∃ t, m.timeouts.promptExpiry.lookup id = some t ∧ t ≤ now

theorem mem_expiredPrompts {now : Instant} {id : ElevationRequestId} :
    id ∈ (m.timeouts.expiredPrompts now).1 ↔ m.DueAt now id := by
  simp only [ElevationTimeouts.expiredPrompts, drainExpired, Table.mem_drain, decide_eq_true_eq]
  rfl

/-- A timer that is not due outlives the drain. -/
theorem expiredPrompts_lookup {now : Instant} {id : ElevationRequestId} (h : ¬ m.DueAt now id) :
    (m.timeouts.expiredPrompts now).2.promptExpiry.lookup id
      = m.timeouts.promptExpiry.lookup id := by
  have hnot : id ∉ (m.timeouts.expiredPrompts now).1 := fun hmem => h (mem_expiredPrompts.1 hmem)
  simp only [ElevationTimeouts.expiredPrompts, drainExpired, Table.drain] at hnot ⊢
  rw [Table.lookup_eraseAll, if_neg hnot]

/-- `expire_pending` tears down the prompts that are due. -/
theorem expirePending_tornDown (m : ElevationManager) (now : Instant) :
    TornDown m (fun id _ => m.DueAt now id) (m.expirePending now) := by
  have hids : (m.timeouts.expiredPrompts now).1.Nodup :=
    Table.nodup_keysWhere (fun _ t => decide (t ≤ now)) m.timeouts.promptExpiry
  have htorn : TornDown { m with timeouts := (m.timeouts.expiredPrompts now).2 }
      (fun id _ => m.DueAt now id) (m.expirePending now) :=
    takeAll_tornDown hids fun id p _ => mem_expiredPrompts
  refine ⟨htorn.reported, htorn.once, htorn.removed, fun id p hp hgone => ?_, htorn.others,
    ⟨htorn.records.nextId, htorn.records.sessionAuth, htorn.records.lockoutExpiry,
      htorn.records.requesterUid⟩⟩
  obtain ⟨hpending, htimer⟩ := htorn.untouched id p hp hgone
  exact ⟨hpending, htimer.trans (expiredPrompts_lookup hgone)⟩

/-! ## What one operation does to the prompts -/

/-- Prompts may have gone, each with its timer; the others are as they were. -/
structure Narrows (m m' : ElevationManager) : Prop where
  nextId : m'.nextId = m.nextId
  lookup : ∀ id, (m'.pending.lookup id = m.pending.lookup id
      ∧ m'.timeouts.promptExpiry.lookup id = m.timeouts.promptExpiry.lookup id)
    ∨ (m'.pending.lookup id = none ∧ m'.timeouts.promptExpiry.lookup id = none)

theorem Narrows.refl (m : ElevationManager) : Narrows m m :=
  ⟨rfl, fun _ => Or.inl ⟨rfl, rfl⟩⟩

/-- Only the attempt records and the lockout timers changed. -/
theorem Narrows.of_records (sessionAuth : Table SessionId SessionElevationAuth)
    (lockoutExpiry : Table SessionId Instant) :
    Narrows m { m with sessionAuth, timeouts := { m.timeouts with lockoutExpiry } } :=
  ⟨rfl, fun _ => Or.inl ⟨rfl, rfl⟩⟩

theorem Narrows.close (h : Narrows m m') (id : ElevationRequestId) :
    Narrows m (m'.close id) := by
  refine ⟨h.nextId, fun k => ?_⟩
  rw [close_pending, close_promptExpiry]
  by_cases hk : k = id
  · rw [if_pos hk, if_pos hk]
    exact Or.inr ⟨rfl, rfl⟩
  · rw [if_neg hk, if_neg hk]
    exact h.lookup k

theorem takeAll_narrows (ids : List ElevationRequestId) (m : ElevationManager) :
    Narrows m (m.takeAll ids).1 := by
  obtain ⟨hpending, hexpiry, hsame⟩ := takeAll_spec ids m
  refine ⟨hsame.nextId, fun id => ?_⟩
  rw [hpending, hexpiry]
  split
  · exact Or.inr ⟨rfl, rfl⟩
  · exact Or.inl ⟨rfl, rfl⟩

/-- The drained timers are those of the prompts that go. -/
theorem expirePending_narrows (now : Instant) (m : ElevationManager) :
    Narrows m (m.expirePending now).1 := by
  obtain ⟨hpending, hexpiry, hsame⟩ := takeAll_spec (m.timeouts.expiredPrompts now).1
    { m with timeouts := (m.timeouts.expiredPrompts now).2 }
  refine ⟨hsame.nextId, fun id => ?_⟩
  simp only [expirePending, hpending, hexpiry]
  split
  · exact Or.inr ⟨rfl, rfl⟩
  · rename_i hnot
    exact Or.inl ⟨rfl, expiredPrompts_lookup fun hdue => hnot (mem_expiredPrompts.2 hdue)⟩

theorem attempt_narrows {policy : AuthPolicy} {id : ElevationRequestId}
    {authenticator : Authenticator} {request : AuthRequest} {now : Instant}
    {out : ElevationAttempt}
    (hout : m.attempt id authenticator request policy now = some out) :
    Narrows m out.manager := by
  obtain ⟨p, hl⟩ := attempt_eq_some policy now hout
  cases ha : authenticator.accepts request with
  | true =>
      rw [attempt_accepted policy now hl ha] at hout
      obtain rfl := Option.some.inj hout
      exact (Narrows.of_records _ m.timeouts.lockoutExpiry).close id
  | false =>
      rw [attempt_rejected policy now hl ha] at hout
      split at hout
      · obtain rfl := Option.some.inj hout
        exact (Narrows.of_records _ (m.timeouts.lockoutExpiry.insert p.sessionId _)).close id
      · obtain rfl := Option.some.inj hout
        exact Narrows.of_records _ m.timeouts.lockoutExpiry

theorem Rehash.narrows (h : Rehash m m') : Narrows m m' :=
  ⟨h.nextId, fun id => Or.inl ⟨h.pending.lookup_eq id, h.promptExpiry.lookup_eq id⟩⟩

/-- The id the step issued, if it opened a prompt. -/
def issued (policy : AuthPolicy) (x : Transition ElevationManager (Option ElevationOp)) :
    Option ElevationRequestId :=
  match x.label with
  | some (.begin sessionId compositorConn requesterConn limits now) =>
    match x.pre.begin sessionId compositorConn requesterConn limits policy now with
    | .ok begun => some begun.2
    | .error _ => none
  | _ => none

/-- The step is the `begin` that issued `id` for the prompt `p` at time `now`. -/
def Begins (policy : AuthPolicy) (x : Transition ElevationManager (Option ElevationOp))
    (id : ElevationRequestId) (p : PendingElevation) (now : Instant) : Prop :=
  issued policy x = some id ∧ ∃ limits,
    x.label = some (.begin p.sessionId p.compositorConn p.requesterConn limits now)

/-- A step opens a prompt under the next id, or it can only close some. -/
theorem step_prompts {policy : AuthPolicy} {op : Option ElevationOp} (h : Step policy m op m') :
    (issued policy ⟨m, op, m'⟩ = none ∧ Narrows m m')
      ∨ ∃ p limits now,
        op = some (.begin p.sessionId p.compositorConn p.requesterConn limits now)
        ∧ m.begin p.sessionId p.compositorConn p.requesterConn limits policy now
          = .ok (m', m.nextId + 1)
        ∧ Begins policy ⟨m, op, m'⟩ (m.nextId + 1) p now := by
  cases h with
  | rehash hm => exact Or.inl ⟨rfl, hm.narrows⟩
  | perform op =>
      cases op with
      | begin sessionId compositorConn requesterConn limits now =>
          cases hbegin : m.begin sessionId compositorConn requesterConn limits policy now with
          | error e =>
              simp only [issued, perform, hbegin]
              exact Or.inl ⟨trivial, Narrows.refl m⟩
          | ok begun =>
              obtain ⟨m', id⟩ := begun
              obtain ⟨-, rfl, -⟩ := begin_eq_ok_iff.1 hbegin
              refine Or.inr ⟨⟨sessionId, compositorConn, requesterConn⟩, limits, now, rfl, ?_, ?_⟩
              · simp only [perform, hbegin]
              · exact ⟨by simp only [issued, hbegin], limits, rfl⟩
      | attempt id authenticator request now =>
          refine Or.inl ⟨rfl, ?_⟩
          simp only [perform]
          split
          · rename_i out hout
            exact attempt_narrows hout
          · exact Narrows.refl m
      | cancel id =>
          refine Or.inl ⟨rfl, ?_⟩
          simp only [perform, cancel]
          cases m.pending.lookup id with
          | none => exact Narrows.refl m
          | some p => exact (Narrows.refl m).close id
      | expirePending now => exact Or.inl ⟨rfl, expirePending_narrows now m⟩
      | abandonSession s => exact Or.inl ⟨rfl, takeAll_narrows _ m⟩
      | abandonConnection c => exact Or.inl ⟨rfl, takeAll_narrows _ m⟩
      | clearExpiredLockouts now => exact Or.inl ⟨rfl, Narrows.of_records _ _⟩

end

/-! ## Whole runs -/

/-- The books are in order after the operations `tr`, every `begin` of which was made under
    `limits`. -/
structure Bookkept (policy : AuthPolicy) (limits : ElevationPolicy)
    (tr : List (Transition ElevationManager (Option ElevationOp))) (m : ElevationManager) :
    Prop where
  /-- The timers are keyed by the pending ids. -/
  timed : ∀ id, (∃ t, m.timeouts.promptExpiry.lookup id = some t) ↔
    ∃ p, m.pending.lookup id = some p
  /-- A pending prompt is as its `begin` recorded it, and its deadline is counted from there. -/
  begun : ∀ id p, m.pending.lookup id = some p → ∃ x ∈ tr, ∃ now, Begins policy x id p now
    ∧ m.timeouts.promptExpiry.lookup id = some (now + limits.promptTimeout)
  bounded : ∀ id p, m.pending.lookup id = some p → id ≤ m.nextId
  /-- The ids issued so far are the numbers from `1` to `next_id`, each once. -/
  counted : tr.filterMap (issued policy) = (List.range m.nextId).map (· + 1)
  room : ∀ s, m.pending.countVal (fun p => p.sessionId = s) ≤ limits.maxPendingPerSession

/-- No id is issued twice. -/
theorem Bookkept.issuedOnce {policy : AuthPolicy} {limits : ElevationPolicy}
    {tr : List (Transition ElevationManager (Option ElevationOp))} {m : ElevationManager}
    (h : Bookkept policy limits tr m) : (tr.filterMap (issued policy)).Nodup := by
  rw [h.counted]
  exact List.nodup_range.map fun a b hab => Nat.succ.inj hab

section

variable {policy : AuthPolicy} {limits : ElevationPolicy}
  {tr : List (Transition ElevationManager (Option ElevationOp))} {m m' : ElevationManager}

theorem Bookkept.init : Bookkept policy limits [] {} where
  timed := by simp
  begun := by simp
  bounded := by simp
  counted := rfl
  room := fun s => Nat.zero_le _

theorem Bookkept.narrows {x : Transition ElevationManager (Option ElevationOp)}
    (h : Bookkept policy limits tr m) (hx : issued policy x = none) (hm : Narrows m m') :
    Bookkept policy limits (tr ++ [x]) m' := by
  have hkept : ∀ id p, m'.pending.lookup id = some p → m.pending.lookup id = some p
      ∧ m'.timeouts.promptExpiry.lookup id = m.timeouts.promptExpiry.lookup id := by
    intro id p hp
    rcases hm.lookup id with ⟨hsame, htimer⟩ | ⟨hnone, -⟩
    · exact ⟨hsame ▸ hp, htimer⟩
    · rw [hnone] at hp
      cases hp
  refine ⟨fun id => ?_, fun id p hp => ?_, fun id p hp => ?_, ?_, fun s => ?_⟩
  · rcases hm.lookup id with ⟨hsame, htimer⟩ | ⟨hnone, htimer⟩
    · rw [hsame, htimer]
      exact h.timed id
    · rw [hnone, htimer]
      simp
  · obtain ⟨hp', htimer⟩ := hkept id p hp
    obtain ⟨y, hy, now, hbegins, hdue⟩ := h.begun id p hp'
    exact ⟨y, List.mem_append_left _ hy, now, hbegins, htimer.trans hdue⟩
  · rw [hm.nextId]
    exact h.bounded id p (hkept id p hp).1
  · simp only [List.filterMap_append, List.filterMap_cons, hx, List.filterMap_nil,
      List.append_nil, hm.nextId]
    exact h.counted
  -- fewer prompts, none of them new
  · exact (Table.countVal_le_of_lookup _ fun id p hp => (hkept id p hp).1).trans (h.room s)

theorem Bookkept.begin {x : Transition ElevationManager (Option ElevationOp)}
    {p : PendingElevation} {now : Instant} (h : Bookkept policy limits tr m)
    (hbegin : m.begin p.sessionId p.compositorConn p.requesterConn limits policy now
      = .ok (m', m.nextId + 1))
    (hx : Begins policy x (m.nextId + 1) p now) : Bookkept policy limits (tr ++ [x]) m' := by
  obtain ⟨⟨-, hroom⟩, -, rfl⟩ := begin_eq_ok_iff.1 hbegin
  -- the new id is not in use: all the others are smaller
  have hfresh : m.nextId + 1 ∉ m.pending := by
    intro hmem
    obtain ⟨q, hq⟩ := Table.mem_iff_lookup.1 hmem
    exact absurd (h.bounded _ q hq) (Nat.not_succ_le_self _)
  refine ⟨fun id => ?_, fun id q hq => ?_, fun id q hq => ?_, ?_, fun s => ?_⟩
  · simp only [ElevationTimeouts.startPrompt, Table.lookup_insert_eq]
    by_cases hid : id = m.nextId + 1
    · simp [hid]
    · simp only [hid, if_false]
      exact h.timed id
  · simp only [ElevationTimeouts.startPrompt, Table.lookup_insert_eq] at hq ⊢
    by_cases hid : id = m.nextId + 1
    · subst hid
      simp only [if_true, Option.some.injEq] at hq ⊢
      subst hq
      exact ⟨x, List.mem_append_right _ (List.mem_singleton_self x), now, hx, rfl⟩
    · simp only [hid, if_false] at hq ⊢
      obtain ⟨y, hy, t, hbegins, hdue⟩ := h.begun id q hq
      exact ⟨y, List.mem_append_left _ hy, t, hbegins, hdue⟩
  · simp only [Table.lookup_insert_eq] at hq
    split at hq
    · rename_i hid
      exact hid.le
    · exact (h.bounded id q hq).trans (Nat.le_succ _)
  · simp only [List.filterMap_append, List.filterMap_cons, hx.1, List.filterMap_nil, h.counted,
      List.range_succ, List.map_append, List.map_cons, List.map_nil]
  · rw [Table.countVal_insert_of_notMem _ _ hfresh]
    by_cases hs : p.sessionId = s
    · subst hs
      simp only [decide_true, if_true]
      -- `begin` refuses a prompt over the quota
      exact hroom
    · simp only [hs, decide_false, Bool.false_eq_true, if_false, Nat.add_zero]
      exact h.room s

theorem Bookkept.step {op : Option ElevationOp} (h : Bookkept policy limits tr m)
    (hstep : Step policy m op m')
    (hlimits : ∀ s c r l now, op = some (.begin s c r l now) → l = limits) :
    Bookkept policy limits (tr ++ [⟨m, op, m'⟩]) m' := by
  rcases step_prompts hstep with ⟨hissued, hnarrows⟩ | ⟨p, l, now, hop, hbegin, hbegins⟩
  · exact h.narrows hissued hnarrows
  · obtain rfl := hlimits _ _ _ _ _ hop
    exact h.begin hbegin hbegins

end

/-- **The books stay in order.** In every state a run of operations reaches from `new`, all of whose
    prompts were opened under one policy: the timers are keyed by the pending ids, each due at its
    `begin` plus the timeout, ids are bounded by `next_id` and issued once, and no session is over
    its quota. `expire_pending`, `abandon_session` and `abandon_connection` then return and remove
    exactly the prompts that are due or named, each once and as recorded, and leave the others
    alone. -/
theorem prompts_bookkept {policy : AuthPolicy} {limits : ElevationPolicy}
    {tr : List (Transition ElevationManager (Option ElevationOp))} {m : ElevationManager}
    (hrun : Run (Step policy) {} tr m)
    (hlimits : ∀ x ∈ tr, ∀ s c r l now, x.label = some (.begin s c r l now) → l = limits) :
    Bookkept policy limits tr m
      ∧ (tr.filterMap (issued policy)).Nodup
      ∧ (∀ now, TornDown m (fun id _ => m.DueAt now id) (m.expirePending now))
      ∧ (∀ s, TornDown m (fun _ p => p.sessionId = s) (m.abandonSession s))
      ∧ ∀ c, TornDown m (fun _ p => p.compositorConn = c ∨ p.requesterConn = c)
        (m.abandonConnection c) := by
  have hkept : Bookkept policy limits tr m :=
    hrun.history_along
      (G := fun _ x => ∀ s c r l now, x.label = some (.begin s c r l now) → l = limits)
      Bookkept.init (fun tr₁ x tr₂ htr => hlimits x (htr ▸ by simp))
      (fun tr s l s' h hstep hgood => h.step hstep hgood)
  exact ⟨hkept, hkept.issuedOnce, m.expirePending_tornDown, m.abandonSession_tornDown,
    m.abandonConnection_tornDown⟩

section Example

private def shownLimits : ElevationPolicy :=
  ElevationPolicy.from default

private def shownAuth : AuthPolicy :=
  AuthPolicy.new default default

/-- A prompt for session 1 at time `0` and one for session 2 a second later. -/
private def shown : ElevationManager :=
  (({} : ElevationManager).perform shownAuth (.begin 1 10 20 shownLimits 0)).perform shownAuth
    (.begin 2 11 20 shownLimits (Duration.fromSecs 1))

/-- The first prompt times out after the default two minutes, and is all that goes. -/
theorem prompts_bookkept_two :
    (shown.expirePending (Duration.fromSecs 120)).2 = [⟨1, 1, 10, 20⟩]
      ∧ TornDown shown (fun id _ => shown.DueAt (Duration.fromSecs 120) id)
        (shown.expirePending (Duration.fromSecs 120)) := by
  have hrun : Run (Step shownAuth) {} _ shown :=
    (Run.single (Step.perform {} (.begin 1 10 20 shownLimits 0))).snoc
      (Step.perform _ (.begin 2 11 20 shownLimits (Duration.fromSecs 1)))
  have hkept := prompts_bookkept hrun fun x hx s c r l now hlabel =>
    (show l = shownLimits by
      simp only [List.singleton_append, List.mem_cons, List.not_mem_nil, or_false] at hx
      rcases hx with rfl | rfl <;>
      · cases hlabel
        rfl)
  exact ⟨by decide, hkept.2.2.1 _⟩

end Example

end ElevationManager

end MitosSession
