import Mathlib.Data.List.DropRight
import Mathlib.Data.List.Nodup

set_option autoImplicit false

/-! # Fields

Lists joined with a separator, and split at it again. A join of no field and a join of one empty
field are the same list, so what can be read back of arbitrary fields are the nonempty ones.
`pushNew` is the loop body that collects what was read, each value once. -/

variable {α : Type*}

/-- What holds of the separator and of every field holds of the join. -/
theorem forall_mem_intercalate {p : α → Prop} {sep : List α} {fields : List (List α)}
    (hsep : ∀ a ∈ sep, p a) (h : ∀ field ∈ fields, ∀ a ∈ field, p a) :
    ∀ a ∈ sep.intercalate fields, p a := by
  induction fields with
  | nil => simp
  | cons field rest ih =>
      obtain ⟨hfield, hrest⟩ := List.forall_mem_cons.1 h
      cases rest with
      | nil =>
          rw [List.intercalate_singleton]
          exact hfield
      | cons next rest =>
          simp only [List.intercalate_cons_cons, List.forall_mem_append]
          exact ⟨⟨hfield, hsep⟩, ih hrest⟩

theorem mem_splitOn_intercalate [BEq α] [LawfulBEq α] {sep : α} {fields : List (List α)}
    {field : List α} (h : ∀ field ∈ fields, sep ∉ field) (hne : field ≠ []) :
    field ∈ ([sep].intercalate fields).splitOn sep ↔ field ∈ fields := by
  cases fields with
  | nil => simp [hne]
  | cons first rest => rw [List.splitOn_intercalate sep h (List.cons_ne_nil first rest)]

/-! ## Nothing to drop -/

theorem dropWhile_eq_self_iff_head? {p : α → Bool} {l : List α} :
    l.dropWhile p = l ↔ ∀ a ∈ l.head?, p a = false := by
  rw [List.dropWhile_eq_self_iff]
  cases l with
  | nil => simp
  | cons a rest => simp

theorem rdropWhile_eq_self_iff_getLast? {p : α → Bool} {l : List α} :
    l.rdropWhile p = l ↔ ∀ a ∈ l.getLast?, p a = false := by
  rw [List.rdropWhile_eq_self_iff]
  rcases List.eq_nil_or_concat l with rfl | ⟨init, a, rfl⟩
  · simp
  · simp

/-! ## Each value once -/

/-- Append what is not there yet. -/
def pushNew [DecidableEq α] (acc : List α) (a : α) : List α :=
  if a ∈ acc then acc else acc ++ [a]

/-- The loop appends some of the values, in their order: each that is not there yet, once. -/
theorem foldl_pushNew [DecidableEq α] (l : List α) {acc : List α} (h : acc.Nodup) :
    ∃ rest, l.foldl pushNew acc = acc ++ rest ∧ (acc ++ rest).Nodup ∧ rest.Sublist l
      ∧ ∀ a, a ∈ acc ++ rest ↔ a ∈ acc ∨ a ∈ l := by
  induction l generalizing acc with
  | nil =>
      refine ⟨[], (List.append_nil acc).symm, ?_, List.Sublist.refl [], ?_⟩
      · rwa [List.append_nil]
      · simp
  | cons b l ih =>
      rw [List.foldl_cons]
      by_cases hb : b ∈ acc
      · obtain ⟨rest, heq, hnodup, hsub, hmem⟩ := ih h
        rw [pushNew, if_pos hb]
        refine ⟨rest, heq, hnodup, hsub.cons b, fun a => ?_⟩
        rw [hmem, List.mem_cons]
        constructor
        · exact fun ha => ha.imp_right Or.inr
        · rintro (hacc | rfl | hl)
          · exact Or.inl hacc
          · exact Or.inl hb
          · exact Or.inr hl
      · have hpushed : (acc ++ [b]).Nodup := by
          rw [← List.concat_eq_append]
          exact h.concat hb
        obtain ⟨rest, heq, hnodup, hsub, hmem⟩ := ih hpushed
        rw [pushNew, if_neg hb]
        rw [List.append_assoc] at heq hnodup
        refine ⟨b :: rest, heq, hnodup, hsub.cons_cons b, fun a => ?_⟩
        rw [← List.singleton_append, ← List.append_assoc, hmem, List.mem_append,
          List.mem_singleton, List.mem_cons, or_assoc]
