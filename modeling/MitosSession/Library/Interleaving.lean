import Mathlib.Data.List.Basic
import Mathlib.Data.List.Nodup
import Mathlib.Logic.Function.Basic

set_option autoImplicit false

/-! # Words with letters of many owners

A word is read letter by letter (`List.foldlM` in `Option`): a letter may be refused, and then the
word is. Where every letter has an owner and every owner a state of its own, a word is read by the
owners together (`together`) exactly as each of them reads its own letters
(`foldlM_together_iff`): the order of letters of different owners does not matter. What is left
after a beginning of a readable word can still be read (`foldlM_append_some`). The owners may be
kept in a list, each under a key of its own (`mem_set_of_nodup`).

Where some letters ask and letters bring answers, never more than were asked for, and nothing is
asked before all of it is answered, the answers can be told apart by their place alone
(`exists_exchange`). -/

variable {A I R S : Type*}

/-- A word that can be read: so can what it begins with, and then the rest. -/
theorem foldlM_append_some {next : S → A → Option S} {s s' : S} {u v : List A} :
    (u ++ v).foldlM next s = some s' ↔
      ∃ t, u.foldlM next s = some t ∧ v.foldlM next t = some s' := by
  rw [List.foldlM_append]
  exact Option.bind_eq_some_iff

section Together

variable [DecidableEq I] (owner : A → I) (next : S → A → Option S)

/-- The owner of the letter reads it. -/
def together (states : I → S) (a : A) : Option (I → S) :=
  (next (states (owner a)) a).map fun s => Function.update states (owner a) s

/-- The letters of one owner. -/
def lettersOf (i : I) (w : List A) : List A :=
  w.filter fun a => owner a = i

variable {owner next} {states states' : I → S} {a : A} {w : List A}

theorem together_eq_some_iff :
    together owner next states a = some states' ↔
      ∃ s, next (states (owner a)) a = some s ∧ Function.update states (owner a) s = states' :=
  Option.map_eq_some_iff

theorem lettersOf_cons_self : lettersOf owner (owner a) (a :: w)
    = a :: lettersOf owner (owner a) w := by
  simp [lettersOf]

theorem lettersOf_cons_of_ne {i : I} (h : owner a ≠ i) :
    lettersOf owner i (a :: w) = lettersOf owner i w := by
  simp [lettersOf, h]

theorem lettersOf_append (i : I) (u v : List A) :
    lettersOf owner i (u ++ v) = lettersOf owner i u ++ lettersOf owner i v :=
  List.filter_append ..

/-- The owners read a word together exactly as each of them reads its own letters. -/
theorem foldlM_together_iff :
    w.foldlM (together owner next) states = some states' ↔
      ∀ i, (lettersOf owner i w).foldlM next (states i) = some (states' i) := by
  induction w generalizing states with
  | nil =>
      simp only [lettersOf, List.filter_nil, List.foldlM_nil]
      constructor
      · intro h i
        rw [Option.some.inj h]
        rfl
      · intro h
        exact congrArg some (funext fun i => Option.some.inj (h i))
  | cons a w ih =>
      rw [List.foldlM_cons]
      constructor
      · intro h i
        obtain ⟨mid, hmid, hrest⟩ := Option.bind_eq_some_iff.1 h
        obtain ⟨s, hs, rfl⟩ := together_eq_some_iff.1 hmid
        have hi := ih.1 hrest i
        by_cases howner : owner a = i
        · subst howner
          rw [Function.update_self] at hi
          rw [lettersOf_cons_self, List.foldlM_cons, hs]
          exact hi
        · rw [Function.update_of_ne (Ne.symm howner)] at hi
          rwa [lettersOf_cons_of_ne howner]
      · intro h
        have ha := h (owner a)
        rw [lettersOf_cons_self, List.foldlM_cons] at ha
        obtain ⟨s, hs, hrest⟩ := Option.bind_eq_some_iff.1 ha
        refine Option.bind_eq_some_iff.2 ⟨_, together_eq_some_iff.2 ⟨s, hs, rfl⟩, ih.2 fun i => ?_⟩
        by_cases howner : owner a = i
        · subst howner
          rwa [Function.update_self]
        · rw [Function.update_of_ne (Ne.symm howner)]
          simpa only [lettersOf_cons_of_ne howner] using h i

end Together

/-! ## Owners in a list -/

/-- One of many cells with different keys is written: the others are those with another key. -/
theorem mem_set_of_nodup {α β : Type*} {f : α → β} {l : List α} {i : ℕ} {a a' b : α}
    (hnodup : (l.map f).Nodup) (hget : l[i]? = some a) (h : b ∈ l.set i a') :
    b = a' ∨ (b ∈ l ∧ f b ≠ f a) := by
  obtain ⟨j, hj⟩ := List.mem_iff_getElem?.1 h
  rw [List.getElem?_set] at hj
  by_cases hij : i = j
  · rw [if_pos hij] at hj
    split at hj
    · exact Or.inl (Option.some.inj hj).symm
    · cases hj
  · rw [if_neg hij] at hj
    refine Or.inr ⟨List.mem_of_getElem? hj, fun heq => hij ?_⟩
    have hsame : (l.map f)[i]? = (l.map f)[j]? := by
      rw [List.getElem?_map, List.getElem?_map, hget, hj, Option.map_some, Option.map_some, heq]
    have hbound : i < (l.map f).length := by
      rw [List.length_map]
      exact (List.getElem?_eq_some_iff.1 hget).1
    exact (List.getElem?_inj hbound hnodup).1 hsame

/-- Writing a cell under the key it has keeps the keys. -/
theorem map_set_eq_self {α β : Type*} {f : α → β} {l : List α} {i : ℕ} {a a' : α}
    (hget : l[i]? = some a) (h : f a' = f a) : (l.set i a').map f = l.map f := by
  obtain ⟨hbound, rfl⟩ := List.getElem?_eq_some_iff.1 hget
  rw [List.map_set, h, ← List.getElem_map f, List.set_getElem_self]
  rwa [List.length_map]

/-! ## Questions and answers -/

/-- The letter before which `k` others count. -/
theorem exists_nth_of_lt_countP {p : A → Bool} {w : List A} {k : ℕ} (h : k < w.countP p) :
    ∃ u a v, w = u ++ a :: v ∧ p a = true ∧ u.countP p = k := by
  induction w generalizing k with
  | nil => cases h
  | cons a w ih =>
      cases hp : p a with
      | false =>
          rw [List.countP_cons_of_neg (by simp [hp])] at h
          obtain ⟨u, b, v, rfl, hb, hcount⟩ := ih h
          exact ⟨a :: u, b, v, rfl, hb, by rw [List.countP_cons_of_neg (by simp [hp]), hcount]⟩
      | true =>
          rw [List.countP_cons_of_pos hp] at h
          cases k with
          | zero => exact ⟨[], a, w, rfl, hp, rfl⟩
          | succ k =>
              obtain ⟨u, b, v, rfl, hb, hcount⟩ := ih (Nat.lt_of_succ_lt_succ h)
              exact ⟨a :: u, b, v, rfl, hb, by rw [List.countP_cons_of_pos hp, hcount]⟩

/-- A word up to the first letter that counts, and from there on. -/
theorem exists_up_to_first (p : A → Bool) (w : List A) :
    ∃ v v', w = v ++ v' ∧ (∀ b ∈ v, p b = false) ∧ ∀ b v'', v' = b :: v'' → p b = true := by
  induction w with
  | nil => exact ⟨[], [], rfl, by simp, by simp⟩
  | cons a w ih =>
      cases hp : p a with
      | true => exact ⟨[], a :: w, rfl, by simp, by simp [hp]⟩
      | false =>
          obtain ⟨v, v', rfl, hv, hv'⟩ := ih
          exact ⟨a :: v, v', rfl, by simpa [hp] using hv, hv'⟩

/-- If all that was asked before is answered whenever something is asked, then the `k`-th answer is
    the one that comes after the `k`-th question and before the next. -/
theorem exists_exchange {asks : A → Bool} {answers : A → List R} {w : List A} {k : ℕ} {r : R}
    (hmatched : ∀ u a v, w = u ++ a :: v → asks a = true →
      (u.flatMap answers).length = u.countP asks)
    (hle : (w.flatMap answers).length ≤ w.countP asks)
    (hr : (w.flatMap answers)[k]? = some r) :
    ∃ u a v v', w = u ++ a :: (v ++ v') ∧ asks a = true ∧ u.countP asks = k
      ∧ (∀ b ∈ v, asks b = false) ∧ (a :: v).flatMap answers = [r] := by
  have hk : k < (w.flatMap answers).length := (List.getElem?_eq_some_iff.1 hr).1
  obtain ⟨u, a, rest, rfl, ha, hu⟩ := exists_nth_of_lt_countP (Nat.lt_of_lt_of_le hk hle)
  obtain ⟨v, v', rfl, hsilent, hnext⟩ := exists_up_to_first asks rest
  have hbefore : (u.flatMap answers).length = k := (hmatched u a _ rfl ha).trans hu
  have hasked : (u ++ a :: v).countP asks = k + 1 := by
    have hnone : v.countP asks = 0 := by
      rw [List.countP_eq_zero]
      intro b hb
      simp [hsilent b hb]
    rw [List.countP_append, List.countP_cons_of_pos ha, hu, hnone]
  -- one answer came in between
  have hone : ((u ++ a :: v).flatMap answers).length = k + 1 := by
    cases v' with
    | nil =>
        rw [List.append_nil] at hle hk
        rw [hasked] at hle
        omega
    | cons b v'' =>
        rw [hmatched (u ++ a :: v) b v'' (by simp) (hnext b v'' rfl), hasked]
  rw [List.flatMap_append, List.length_append, hbefore, Nat.add_left_cancel_iff] at hone
  obtain ⟨r', hr'⟩ := List.length_eq_one_iff.1 hone
  refine ⟨u, a, v, v', rfl, ha, hu, hsilent, ?_⟩
  have hwhole : (u ++ a :: (v ++ v')).flatMap answers
      = u.flatMap answers ++ r' :: v'.flatMap answers := by
    rw [← List.cons_append, ← List.append_assoc, List.flatMap_append, List.flatMap_append, hr',
      List.append_assoc, List.singleton_append]
  rw [hwhole, List.getElem?_append_right (Nat.le_of_eq hbefore), hbefore, Nat.sub_self] at hr
  rw [hr', Option.some.inj hr]
