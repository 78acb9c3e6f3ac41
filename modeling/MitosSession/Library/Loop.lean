import Mathlib.Data.List.Basic

set_option autoImplicit false

/-! # Loops that update a state and produce output

`forEach f s as` runs the loop body `f` on every element of `as` in order, threading the state and
collecting the output. A relation between the state before, the output and the state after that
holds of doing nothing and of doing two things in a row (`SeqClosed`) holds of a loop as soon as
it holds of its body. `Chain R` is the least such relation above `R`: a handler that is a chain of
elementary changes satisfies every such relation its changes satisfy. `Along` says that a
condition holds each time a loop runs its body. -/

variable {σ α ε : Type*}

/-- Run `f` on every element in order: the state afterwards and all the output. -/
def forEach (f : σ → α → σ × List ε) : σ → List α → σ × List ε
  | s, [] => (s, [])
  | s, a :: rest =>
    let done := f s a
    let later := forEach f done.1 rest
    (later.1, done.2 ++ later.2)

@[simp]
theorem forEach_nil (f : σ → α → σ × List ε) (s : σ) : forEach f s [] = (s, []) :=
  rfl

theorem forEach_cons (f : σ → α → σ × List ε) (s : σ) (a : α) (rest : List α) :
    forEach f s (a :: rest)
      = ((forEach f (f s a).1 rest).1, (f s a).2 ++ (forEach f (f s a).1 rest).2) :=
  rfl

/-- One more round. -/
theorem forEach_concat (f : σ → α → σ × List ε) (s : σ) (as : List α) (a : α) :
    forEach f s (as ++ [a])
      = ((f (forEach f s as).1 a).1, (forEach f s as).2 ++ (f (forEach f s as).1 a).2) := by
  induction as generalizing s with
  | nil => simp [forEach_cons]
  | cons b rest ih => simp only [List.cons_append, forEach_cons, ih, List.append_assoc]

/-- A relation on (state before, output, state after) that is closed under doing nothing and under
    doing one thing after another. -/
structure SeqClosed (R : σ → List ε → σ → Prop) : Prop where
  refl : ∀ s, R s [] s
  trans : ∀ {s s' s'' : σ} {out out' : List ε}, R s out s' → R s' out' s'' → R s (out ++ out') s''

/-- Something without output in front. -/
theorem SeqClosed.silent {R : σ → List ε → σ → Prop} (hR : SeqClosed R) {s s' s'' : σ}
    {out : List ε} (h : R s [] s') (h' : R s' out s'') : R s out s'' :=
  hR.trans h h'

/-- The loop rule: what the body does in every state, the loop does. -/
theorem SeqClosed.loop {R : σ → List ε → σ → Prop} (hR : SeqClosed R)
    (f : σ → α → σ × List ε) (as : List α)
    (hbody : ∀ s, ∀ a ∈ as, R s (f s a).2 (f s a).1) (s : σ) :
    R s (forEach f s as).2 (forEach f s as).1 := by
  induction as generalizing s with
  | nil => exact hR.refl s
  | cons a rest ih =>
      rw [forEach_cons]
      exact hR.trans (hbody s a (List.mem_cons_self ..))
        (ih (fun s b hb => hbody s b (List.mem_cons_of_mem _ hb)) _)

/-- The loop rule for two states: a body that keeps them related does so all the way. -/
theorem forEach_related {R : σ → σ → Prop} (f : σ → α → σ × List ε)
    (hbody : ∀ s t a, R s t → R (f s a).1 (f t a).1) (as : List α) {s t : σ} (h : R s t) :
    R (forEach f s as).1 (forEach f t as).1 := by
  induction as generalizing s t with
  | nil => exact h
  | cons a rest ih => exact ih (hbody s t a h)

/-- The loop rule with an invariant: a body that keeps `I` and satisfies `R` where `I` holds. -/
theorem SeqClosed.loop_of_invariant {R : σ → List ε → σ → Prop} (hR : SeqClosed R)
    {I : σ → Prop} (f : σ → α → σ × List ε) (as : List α)
    (hbody : ∀ s, I s → ∀ a ∈ as, I (f s a).1 ∧ R s (f s a).2 (f s a).1) (s : σ) (hs : I s) :
    I (forEach f s as).1 ∧ R s (forEach f s as).2 (forEach f s as).1 := by
  induction as generalizing s with
  | nil => exact ⟨hs, hR.refl s⟩
  | cons a rest ih =>
      obtain ⟨hI, hdone⟩ := hbody s hs a (List.mem_cons_self ..)
      obtain ⟨hI', hlater⟩ :=
        ih (fun s hs b hb => hbody s hs b (List.mem_cons_of_mem _ hb)) _ hI
      rw [forEach_cons]
      exact ⟨hI', hR.trans hdone hlater⟩

/-- What the rounds of a loop put out, when each round only looks at a part of the state that no
    round writes to: the rounds may then be judged one by one, in the state before the loop. -/
theorem exists_mem_forEach_iff {φ : Type*} (frame : σ → φ) (f : σ → α → σ × List ε)
    {P : ε → Prop} {Q : φ → α → Prop} (hframe : ∀ s a, frame (f s a).1 = frame s)
    (hround : ∀ s a, (∃ e ∈ (f s a).2, P e) ↔ Q (frame s) a) (as : List α) (s : σ) :
    (∃ e ∈ (forEach f s as).2, P e) ↔ ∃ a ∈ as, Q (frame s) a := by
  induction as generalizing s with
  | nil => simp
  | cons a rest ih =>
      simp only [forEach_cons, List.mem_append, or_and_right, exists_or, hround, ih, hframe,
        List.mem_cons, exists_eq_left]

/-- Rounds that do nothing where `I` holds may be left out. -/
theorem forEach_filter {I : σ → Prop} (f : σ → α → σ × List ε) (p : α → Bool)
    (hkeep : ∀ s a, I s → I (f s a).1) (hskip : ∀ s a, I s → p a = false → f s a = (s, []))
    (as : List α) (s : σ) (hs : I s) : forEach f s (as.filter p) = forEach f s as := by
  induction as generalizing s with
  | nil => rfl
  | cons a rest ih =>
      cases hp : p a with
      | true =>
          rw [List.filter_cons_of_pos hp, forEach_cons, forEach_cons, ih _ (hkeep s a hs)]
      | false =>
          have hnone : f s a = (s, []) := hskip s a hs hp
          rw [List.filter_cons_of_neg (by simp [hp]), forEach_cons, hnone, List.nil_append]
          exact ih s hs

/-! ## Chains of elementary changes -/

/-- Any number of `R`-steps in a row, with their output. -/
inductive Chain (R : σ → List ε → σ → Prop) : σ → List ε → σ → Prop
  | nil (s : σ) : Chain R s [] s
  | cons {s s' s'' : σ} {out out' : List ε} :
      R s out s' → Chain R s' out' s'' → Chain R s (out ++ out') s''

section Chain

variable {R R' : σ → List ε → σ → Prop} {s s' s'' : σ} {out out' : List ε}

theorem Chain.single (h : R s out s') : Chain R s out s' := by
  have hchain := Chain.cons h (Chain.nil (R := R) s')
  rwa [List.append_nil] at hchain

theorem Chain.append (h : Chain R s out s') (h' : Chain R s' out' s'') :
    Chain R s (out ++ out') s'' := by
  induction h with
  | nil => exact h'
  | cons hstep _ ih =>
      rw [List.append_assoc]
      exact Chain.cons hstep (ih h')

/-- A step without output in front. -/
theorem Chain.silent (h : R s [] s') (h' : Chain R s' out s'') : Chain R s out s'' :=
  Chain.cons h h'

theorem Chain.seqClosed (R : σ → List ε → σ → Prop) : SeqClosed (Chain R) :=
  ⟨Chain.nil, Chain.append⟩

theorem Chain.mono (h : Chain R s out s') (hsub : ∀ s out s', R s out s' → R' s out s') :
    Chain R' s out s' := by
  induction h with
  | nil => exact Chain.nil _
  | cons hstep _ ih => exact Chain.cons (hsub _ _ _ hstep) ih

/-- The chain rule: what every change satisfies, a chain of them does. -/
theorem SeqClosed.chain (hR' : SeqClosed R') (h : Chain R s out s')
    (hsub : ∀ s out s', R s out s' → R' s out s') : R' s out s' := by
  induction h with
  | nil => exact hR'.refl _
  | cons hstep _ ih => exact hR'.trans (hsub _ _ _ hstep) ih

end Chain

/-- `P` holds of the state and the element each time the loop runs its body. -/
def Along (P : σ → α → Prop) (f : σ → α → σ × List ε) : σ → List α → Prop
  | _, [] => True
  | s, a :: rest => P s a ∧ Along P f (f s a).1 rest

/-- The loop rule under a condition on each round. -/
theorem SeqClosed.loop_along {R : σ → List ε → σ → Prop} (hR : SeqClosed R)
    {P : σ → α → Prop} (f : σ → α → σ × List ε) (hbody : ∀ s a, P s a → R s (f s a).2 (f s a).1)
    (as : List α) (s : σ) (h : Along P f s as) :
    R s (forEach f s as).2 (forEach f s as).1 := by
  induction as generalizing s with
  | nil => exact hR.refl s
  | cons a rest ih =>
      rw [forEach_cons]
      exact hR.trans (hbody s a h.1) (ih _ h.2)
