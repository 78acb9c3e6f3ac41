import Mathlib.Data.List.DropRight
import Mathlib.Data.List.Forall2
import Mathlib.Logic.Relation
import MitosSession.Library.Loop

set_option autoImplicit false

/-! # Runs of a labelled transition system

A run is a list of transitions, each starting where the one before it ended. It is built at its
end, so that an invariant may speak of the whole history: `Run.history` is the induction rule
"holds of the empty history, and every step keeps it", and `Run.invariant` its special case for
predicates on states; `Run.output` is about what the steps put out. `Run.forall_transitions`
collects what every single transition satisfies once the state it starts in is known to be good, and
`Run.forall_history_iff` turns an exact condition on single steps into one on whole runs.
`Run.purge` deletes steps from a run: if a deleted step is invisible to the states of another run,
and a kept step can be followed from any state that looks the same, the other run follows the kept
steps. `Latest` and `Since` speak of the last time something happened. `Run.counter` reads a counter
kept in the state as a count over the history since the last reset (`countSince`). -/

/-- One transition of a run: the states around it and its label. -/
structure Transition (S L : Type*) where
  pre : S
  label : L
  post : S

variable {S L : Type*}

/-- `Run step s₀ tr s`: the transitions `tr` lead from `s₀` to `s`. -/
inductive Run (step : S → L → S → Prop) (s₀ : S) : List (Transition S L) → S → Prop
  | nil : Run step s₀ [] s₀
  | snoc {tr : List (Transition S L)} {s s' : S} {l : L} :
      Run step s₀ tr s → step s l s' → Run step s₀ (tr ++ [⟨s, l, s'⟩]) s'

/-- The places of a list with one element more: the last, and those before. -/
theorem concat_eq_append_cons_iff {α : Type*} {l l₁ l₂ : List α} {a b : α} :
    l ++ [a] = l₁ ++ b :: l₂ ↔
      (l₂ = [] ∧ l₁ = l ∧ b = a) ∨ ∃ init, l₂ = init ++ [a] ∧ l = l₁ ++ b :: init := by
  constructor
  · intro hl
    rcases List.eq_nil_or_concat l₂ with rfl | ⟨init, last, rfl⟩
    · obtain ⟨rfl, hb⟩ := List.append_inj' hl rfl
      exact Or.inl ⟨rfl, rfl, (List.cons.inj hb).1.symm⟩
    · rw [List.concat_eq_append, ← List.cons_append, ← List.append_assoc] at hl
      obtain ⟨hinit, hlast⟩ := List.append_inj' hl rfl
      obtain rfl := (List.cons.inj hlast).1
      exact Or.inr ⟨init, List.concat_eq_append, hinit⟩
  · rintro (⟨rfl, rfl, rfl⟩ | ⟨init, rfl, rfl⟩)
    · rfl
    · rw [List.append_assoc, List.cons_append]

/-- What holds at every place of a list, with what comes before it. -/
theorem forall_split_concat {α : Type*} {l : List α} {a : α} {Q : List α → α → Prop} :
    (∀ l₁ b l₂, l ++ [a] = l₁ ++ b :: l₂ → Q l₁ b) ↔
      (∀ l₁ b l₂, l = l₁ ++ b :: l₂ → Q l₁ b) ∧ Q l a := by
  simp only [concat_eq_append_cons_iff]
  constructor
  · intro hall
    exact ⟨fun l₁ b l₂ hl => hall l₁ b (l₂ ++ [a]) (Or.inr ⟨l₂, rfl, hl⟩),
      hall l a [] (Or.inl ⟨rfl, rfl, rfl⟩)⟩
  · rintro ⟨hinit, hlast⟩ l₁ b l₂ (⟨-, rfl, rfl⟩ | ⟨init, -, hl⟩)
    · exact hlast
    · exact hinit l₁ b init hl

namespace Run

variable {step : S → L → S → Prop} {s₀ s s' : S} {tr tr' : List (Transition S L)}

theorem single {l : L} (h : step s₀ l s) : Run step s₀ [⟨s₀, l, s⟩] s :=
  Run.snoc Run.nil h

theorem append (h : Run step s₀ tr s) (h' : Run step s tr' s') : Run step s₀ (tr ++ tr') s' := by
  induction h' with
  | nil => rwa [List.append_nil]
  | snoc _ hstep ih =>
      rw [← List.append_assoc]
      exact ih.snoc hstep

/-- The history rule: a property of the transitions so far and the state reached. -/
theorem history {P : List (Transition S L) → S → Prop} (h : Run step s₀ tr s) (h0 : P [] s₀)
    (hstep : ∀ tr s l s', Run step s₀ tr s → P tr s → step s l s' → P (tr ++ [⟨s, l, s'⟩]) s') :
    P tr s := by
  induction h with
  | nil => exact h0
  | snoc hrun hs ih => exact hstep _ _ _ _ hrun ih hs

/-- The invariant rule: a property of the state reached. -/
theorem invariant {I : S → Prop} (h : Run step s₀ tr s) (h0 : I s₀)
    (hstep : ∀ s l s', I s → step s l s' → I s') : I s :=
  h.history (P := fun _ s => I s) h0 fun _ s l s' _ hI hs => hstep s l s' hI hs

/-- The output rule: what relates the states around every step to what the step puts out relates
    the ends of a run to everything it puts out. -/
theorem output {ε : Type*} {R : S → List ε → S → Prop} {out : Transition S L → List ε}
    (h : Run step s₀ tr s) (hR : SeqClosed R)
    (hstep : ∀ tr s l s', Run step s₀ tr s → step s l s' → R s (out ⟨s, l, s'⟩) s') :
    R s₀ (tr.flatMap out) s := by
  refine h.history (P := fun tr s => R s₀ (tr.flatMap out) s) (hR.refl s₀) ?_
  intro tr s l s' hrun hsofar hs
  rw [List.flatMap_append, List.flatMap_singleton]
  exact hR.trans hsofar (hstep tr s l s' hrun hs)

/-- A run goes through each of its transitions: what comes before it leads to where it starts. -/
theorem split {tr₁ tr₂ : List (Transition S L)} {t : Transition S L} (h : Run step s₀ tr s)
    (htr : tr = tr₁ ++ t :: tr₂) : Run step s₀ tr₁ t.pre ∧ step t.pre t.label t.post := by
  induction h generalizing tr₂ with
  | nil => simp at htr
  | snoc hrun hs ih =>
      rcases concat_eq_append_cons_iff.1 htr with ⟨-, rfl, rfl⟩ | ⟨init, -, hinit⟩
      · exact ⟨hrun, hs⟩
      · exact ih hinit

/-- A run goes on from each of its transitions. -/
theorem after {tr₁ tr₂ : List (Transition S L)} {t : Transition S L} (h : Run step s₀ tr s)
    (htr : tr = tr₁ ++ t :: tr₂) : Run step t.post tr₂ s := by
  induction h generalizing tr₂ with
  | nil => simp at htr
  | snoc hrun hs ih =>
      rcases concat_eq_append_cons_iff.1 htr with ⟨rfl, -, rfl⟩ | ⟨init, rfl, hinit⟩
      · exact Run.nil
      · exact (ih hinit).snoc hs

/-- What a run begins with is a run. -/
theorem take {tr₁ tr₂ : List (Transition S L)} (h : Run step s₀ tr s) (htr : tr = tr₁ ++ tr₂) :
    ∃ s₁, Run step s₀ tr₁ s₁ := by
  cases tr₂ with
  | nil =>
      rw [List.append_nil] at htr
      exact ⟨s, htr ▸ h⟩
  | cons t rest => exact ⟨t.pre, (h.split htr).1⟩

/-- The same states under other labels: a run of another system, if every transition is one. -/
theorem relabel {L' X : Type*} {step' : S → L' → S → Prop} {f : X → Transition S L} {g : X → L'}
    {xs : List X} (h : Run step s₀ (xs.map f) s)
    (hstep : ∀ x ∈ xs, step (f x).pre (f x).label (f x).post →
      step' (f x).pre (g x) (f x).post) :
    Run step' s₀ (xs.map fun x => ⟨(f x).pre, g x, (f x).post⟩) s := by
  generalize htr : xs.map f = tr at h
  induction h generalizing xs with
  | nil =>
      rw [List.map_eq_nil_iff.1 htr]
      exact Run.nil
  | snoc _ hs ih =>
      obtain ⟨init, last, rfl, rfl, hlast⟩ := List.map_eq_append_iff.1 htr
      obtain ⟨x, rest, rfl, hx, hrest⟩ := List.map_eq_cons_iff.1 hlast
      obtain rfl := List.map_eq_nil_iff.1 hrest
      have hx' := hstep x (by simp) (by rw [hx]; exact hs)
      rw [List.map_append, List.map_singleton]
      simp only [hx] at hx' ⊢
      exact (ih (fun y hy => hstep y (List.mem_append_left _ hy)) rfl).snoc hx'

/-- Every transition of a run is a step from a state the run reaches. -/
theorem of_mem {t : Transition S L} (h : Run step s₀ tr s) (ht : t ∈ tr) :
    (∃ tr', Run step s₀ tr' t.pre) ∧ step t.pre t.label t.post := by
  obtain ⟨tr₁, tr₂, htr⟩ := List.append_of_mem ht
  obtain ⟨hpre, hstep⟩ := h.split htr
  exact ⟨⟨tr₁, hpre⟩, hstep⟩

/-- A state property that good transitions keep, together with what such a transition satisfies:
    both hold along a run all of whose transitions are good. -/
theorem forall_transitions {I : S → Prop} {G Q : Transition S L → Prop} (h : Run step s₀ tr s)
    (h0 : I s₀) (hgood : ∀ t ∈ tr, G t)
    (hkeep : ∀ s l s', I s → step s l s' → G ⟨s, l, s'⟩ → I s' ∧ Q ⟨s, l, s'⟩) :
    I s ∧ ∀ t ∈ tr, Q t := by
  induction h with
  | nil => exact ⟨h0, by simp⟩
  | snoc hrun hs ih =>
      obtain ⟨hI, hQ⟩ := ih fun t ht => hgood t (List.mem_append_left _ ht)
      obtain ⟨hI', hQ'⟩ := hkeep _ _ _ hI hs (hgood _ (List.mem_append_right _ (by simp)))
      refine ⟨hI', fun t ht => ?_⟩
      rcases List.mem_append.1 ht with hmem | hmem
      · exact hQ t hmem
      · obtain rfl := List.mem_singleton.1 hmem
        exact hQ'

/-- The history rule for runs all of whose steps are good, where a step may be good only after
    the history before it. -/
theorem history_along {P : List (Transition S L) → S → Prop}
    {G : List (Transition S L) → Transition S L → Prop} (h : Run step s₀ tr s) (h0 : P [] s₀)
    (hgood : ∀ tr₁ t tr₂, tr = tr₁ ++ t :: tr₂ → G tr₁ t)
    (hstep : ∀ tr s l s', P tr s → step s l s' → G tr ⟨s, l, s'⟩ → P (tr ++ [⟨s, l, s'⟩]) s') :
    P tr s := by
  induction h with
  | nil => exact h0
  | @snoc tr s s' l hrun hs ih =>
      refine hstep tr s l s' (ih fun tr₁ t tr₂ htr => ?_) hs (hgood tr _ [] rfl)
      exact hgood tr₁ t (tr₂ ++ [⟨s, l, s'⟩]) (by rw [htr, List.append_assoc, List.cons_append])

/-- Deleting steps from a run. `R` relates its states to those of the run that is left. -/
theorem purge {R : S → S → Prop} {Q : L → L → Prop} {t₀ : S} (h : Run step s₀ tr s)
    (keep : L → Bool) (h0 : R s₀ t₀)
    (hdrop : ∀ s l s' t, R s t → step s l s' → keep l = false → R s' t)
    (hkeep : ∀ s l s' t, R s t → step s l s' → keep l = true →
      ∃ l' t', step t l' t' ∧ Q l l' ∧ R s' t') :
    ∃ tr' t, Run step t₀ tr' t ∧ R s t
      ∧ List.Forall₂ (fun x y => Q x.label y.label ∧ R x.pre y.pre ∧ R x.post y.post)
        (tr.filter fun x => keep x.label) tr' := by
  induction h with
  | nil => exact ⟨[], t₀, Run.nil, h0, List.Forall₂.nil⟩
  | @snoc tr s s' l _ hs ih =>
      obtain ⟨tr', t, hrun, hst, hall⟩ := ih
      rw [List.filter_append]
      cases hl : keep l with
      | false =>
          refine ⟨tr', t, hrun, hdrop s l s' t hst hs hl, ?_⟩
          simpa only [List.filter_cons, hl, Bool.false_eq_true, if_false, List.filter_nil,
            List.append_nil] using hall
      | true =>
          obtain ⟨l', t', hs', hq, hst'⟩ := hkeep s l s' t hst hs hl
          refine ⟨tr' ++ [⟨t, l', t'⟩], t', hrun.snoc hs', hst', ?_⟩
          simp only [List.filter_cons, hl, if_true, List.filter_nil]
          exact List.rel_append hall (List.Forall₂.cons ⟨hq, hst, hst'⟩ List.Forall₂.nil)

/-- The exact rule: if a step after a good history leads to a good one exactly when it satisfies
    `G`, then every history along a run is good exactly when every step of it satisfies `G`. -/
theorem forall_history_iff {P : List (Transition S L) → S → Prop}
    {G : List (Transition S L) → Transition S L → Prop} (h : Run step s₀ tr s) (h0 : P [] s₀)
    (hexact : ∀ tr s l s', Run step s₀ tr s → P tr s → step s l s' →
      (P (tr ++ [⟨s, l, s'⟩]) s' ↔ G tr ⟨s, l, s'⟩)) :
    (∀ tr₁ t tr₂, tr = tr₁ ++ t :: tr₂ → P (tr₁ ++ [t]) t.post) ↔
      ∀ tr₁ t tr₂, tr = tr₁ ++ t :: tr₂ → G tr₁ t := by
  have hboth : ((∀ tr₁ t tr₂, tr = tr₁ ++ t :: tr₂ → P (tr₁ ++ [t]) t.post) → P tr s)
      ∧ ((∀ tr₁ t tr₂, tr = tr₁ ++ t :: tr₂ → P (tr₁ ++ [t]) t.post) ↔
        ∀ tr₁ t tr₂, tr = tr₁ ++ t :: tr₂ → G tr₁ t) := by
    induction h with
    | nil => exact ⟨fun _ => h0, by simp⟩
    | @snoc tr s s' l hrun hs ih =>
        obtain ⟨hlast, hiff⟩ := ih
        simp only [forall_split_concat]
        refine ⟨And.right, ?_⟩
        constructor
        · rintro ⟨hpost, hP⟩
          exact ⟨hiff.1 hpost, (hexact _ _ _ _ hrun (hlast hpost) hs).1 hP⟩
        · rintro ⟨hgood, hG⟩
          have hpost := hiff.2 hgood
          exact ⟨hpost, (hexact _ _ _ _ hrun (hlast hpost) hs).2 hG⟩
  exact hboth.2

/-- The exact rule for properties of states. -/
theorem forall_post_iff {I : S → Prop} {G : Transition S L → Prop} (h : Run step s₀ tr s)
    (h0 : I s₀)
    (hexact : ∀ tr s l s', Run step s₀ tr s → I s → step s l s' → (I s' ↔ G ⟨s, l, s'⟩)) :
    (∀ t ∈ tr, I t.post) ↔ ∀ t ∈ tr, G t := by
  have hmem : ∀ {Q : Transition S L → Prop},
      (∀ t ∈ tr, Q t) ↔ ∀ tr₁ t tr₂, tr = tr₁ ++ t :: tr₂ → Q t := by
    intro Q
    constructor
    · rintro hall tr₁ t tr₂ rfl
      exact hall t (by simp)
    · intro hall t ht
      obtain ⟨tr₁, tr₂, htr⟩ := List.append_of_mem ht
      exact hall tr₁ t tr₂ htr
  rw [hmem, hmem]
  exact h.forall_history_iff (P := fun _ s => I s) (G := fun _ t => G t) h0 hexact

end Run

/-! ## The latest of something -/

section Latest

variable {α β : Type*} {P : β → α → Prop} {l : List α} {a : α} {t t' : β}

/-- `t` is the value, by `P`, of the last element of `l` that has one. -/
def Latest (P : β → α → Prop) (l : List α) (t : β) : Prop :=
  ∃ l₁ a l₂, l = l₁ ++ a :: l₂ ∧ P t a ∧ ∀ b ∈ l₂, ∀ t', ¬ P t' b

theorem Latest.last (h : P t a) : Latest P (l ++ [a]) t :=
  ⟨l, a, [], rfl, h, by simp⟩

theorem Latest.snoc (h : Latest P l t) (ha : ∀ t', ¬ P t' a) : Latest P (l ++ [a]) t := by
  obtain ⟨l₁, b, l₂, rfl, hb, hlater⟩ := h
  refine ⟨l₁, b, l₂ ++ [a], by rw [List.append_assoc, List.cons_append], hb, ?_⟩
  simp only [List.forall_mem_append, List.forall_mem_singleton]
  exact ⟨hlater, ha⟩

theorem latest_concat_iff :
    Latest P (l ++ [a]) t ↔ P t a ∨ Latest P l t ∧ ∀ t', ¬ P t' a := by
  constructor
  · rintro ⟨l₁, b, l₂, hl, hb, hlater⟩
    rcases concat_eq_append_cons_iff.1 hl with ⟨-, -, rfl⟩ | ⟨init, rfl, rfl⟩
    · exact Or.inl hb
    · exact Or.inr ⟨⟨l₁, b, init, rfl, hb, fun c hc => hlater c (List.mem_append_left _ hc)⟩,
        hlater a (by simp)⟩
  · rintro (ha | ⟨hl, ha⟩)
    · exact Latest.last ha
    · exact hl.snoc ha

/-- There is one such value, if every element has one at most. -/
theorem Latest.unique (hP : ∀ a t t', P t a → P t' a → t = t') (h : Latest P l t)
    (h' : Latest P l t') : t = t' := by
  induction l using List.reverseRecOn with
  | nil =>
      obtain ⟨l₁, b, l₂, hl, -⟩ := h
      simp at hl
  | append_singleton l a ih =>
      rcases latest_concat_iff.1 h with ha | ⟨hl, hnone⟩
      · rcases latest_concat_iff.1 h' with ha' | ⟨-, hnone⟩
        · exact hP a t t' ha ha'
        · exact absurd ha (hnone t)
      · rcases latest_concat_iff.1 h' with ha' | ⟨hl', -⟩
        · exact absurd ha' (hnone t')
        · exact ih hl hl'

/-- The latest value, seen in more detail: `f` forgets what `Q` knows more than `P`. -/
theorem Latest.refine {γ : Type*} {Q : γ → α → Prop} {f : γ → β} (h : Latest P l t)
    (hlift : ∀ a t, P t a → ∃ v, Q v a ∧ f v = t) (hforget : ∀ a v, Q v a → P (f v) a) :
    ∃ v, Latest Q l v ∧ f v = t := by
  obtain ⟨l₁, a, l₂, hl, ha, hlater⟩ := h
  obtain ⟨v, hv, hfv⟩ := hlift a t ha
  exact ⟨v, ⟨l₁, a, l₂, hl, hv, fun b hb v' hv' => hlater b hb _ (hforget b v' hv')⟩, hfv⟩

end Latest

/-! ## Something since something -/

/-- There was a `p`, and since then, itself included, everything satisfies `q`. -/
def Since {α : Type*} (p q : α → Prop) (l : List α) : Prop :=
  ∃ l₁ a l₂, l = l₁ ++ a :: l₂ ∧ p a ∧ ∀ b ∈ a :: l₂, q b

theorem since_concat_iff {α : Type*} {p q : α → Prop} {l : List α} {a : α} :
    Since p q (l ++ [a]) ↔ q a ∧ (p a ∨ Since p q l) := by
  constructor
  · rintro ⟨l₁, b, l₂, hl, hb, hall⟩
    rcases concat_eq_append_cons_iff.1 hl with ⟨rfl, -, rfl⟩ | ⟨init, rfl, rfl⟩
    · exact ⟨hall b (List.mem_cons_self ..), Or.inl hb⟩
    · rw [← List.cons_append] at hall
      exact ⟨hall a (by simp),
        Or.inr ⟨l₁, b, init, rfl, hb, fun c hc => hall c (List.mem_append_left _ hc)⟩⟩
  · rintro ⟨hq, hp | ⟨l₁, b, l₂, rfl, hb, hall⟩⟩
    · exact ⟨l, a, [], rfl, hp, by simpa using hq⟩
    · refine ⟨l₁, b, l₂ ++ [a], by rw [List.append_assoc, List.cons_append], hb, ?_⟩
      rw [← List.cons_append]
      simp only [List.forall_mem_append, List.forall_mem_singleton]
      exact ⟨hall, hq⟩

theorem Since.exists_mem {α : Type*} {p q : α → Prop} {l : List α} (h : Since p q l) :
    ∃ a ∈ l, p a := by
  obtain ⟨l₁, a, l₂, rfl, ha, -⟩ := h
  exact ⟨a, by simp, ha⟩

/-! ## Counters -/

section Counter

variable {α : Type*} (reset p : α → Bool)

/-- How many elements satisfy `p` after the last one that satisfies `reset`. -/
def countSince (l : List α) : ℕ :=
  (l.rtakeWhile fun a => !reset a).countP p

theorem countSince_concat (l : List α) (a : α) :
    countSince reset p (l ++ [a])
      = if reset a then 0 else countSince reset p l + if p a then 1 else 0 := by
  unfold countSince
  rw [List.rtakeWhile_concat]
  cases reset a with
  | true => simp
  | false => simp [List.countP_append, List.countP_singleton]

/-- The counter rule: a number kept in the state that resetting steps put back to `f 0` and
    counting steps move from `f n` to `f (n + 1)` is `f` of the count over the history. -/
theorem Run.counter {step : S → L → S → Prop} {s₀ s : S} {tr : List (Transition S L)}
    {reset p : Transition S L → Bool} {v : S → ℕ} {f g : ℕ → ℕ} (h : Run step s₀ tr s)
    (h0 : v s₀ = f 0) (hg : ∀ n, g (f n) = f (n + 1))
    (hstep : ∀ tr s l s', Run step s₀ tr s → step s l s' →
      v s' = if reset ⟨s, l, s'⟩ then f 0 else if p ⟨s, l, s'⟩ then g (v s) else v s) :
    v s = f (countSince reset p tr) := by
  refine h.history (P := fun tr s => v s = f (countSince reset p tr)) h0 ?_
  intro tr s l s' hrun hv hs
  rw [hstep tr s l s' hrun hs, countSince_concat]
  cases reset ⟨s, l, s'⟩ with
  | true => rfl
  | false =>
      cases p ⟨s, l, s'⟩ with
      | true => simp only [Bool.false_eq_true, if_false, if_true, hv, hg]
      | false => simp only [Bool.false_eq_true, if_false, hv, Nat.add_zero]

end Counter
