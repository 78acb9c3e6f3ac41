import Mathlib.Algebra.BigOperators.Group.Finset.Basic
import Mathlib.Algebra.Order.BigOperators.Group.Finset
import Mathlib.Algebra.Order.BigOperators.Group.List
import Mathlib.Data.List.AList

set_option autoImplicit false

/-! # Finite tables with an unspecified iteration order

A `Table K V` is a finite map held as a list of entries with distinct keys (`AList`): looking up,
inserting and erasing are Mathlib's. This file adds what a hash map of a systems program needs on
top of that: visiting the values, updating one value in place, updating all of them, collecting
the keys that satisfy a predicate, draining them, and counting the values that satisfy one.

The entries' order is the order of iteration. A hash map promises none, so a program's table may
be reordered between any two operations: `Table.Rehash` relates the same map under two iteration
orders, and the lemmas on it say what does not notice the difference. -/

/-- A finite map from `K` to `V`, as a list of entries with distinct keys. -/
abbrev Table (K V : Type*) := AList fun _ : K => V

namespace Table

variable {K V : Type*} [DecidableEq K]

/-! ## Lookup after an update -/

theorem lookup_eq_some_iff {t : Table K V} {k : K} {v : V} :
    t.lookup k = some v ↔ ⟨k, v⟩ ∈ t.entries :=
  AList.mem_lookup_iff

theorem mem_iff_lookup {t : Table K V} {k : K} : k ∈ t ↔ ∃ v, t.lookup k = some v := by
  rw [← AList.lookup_isSome, Option.isSome_iff_exists]

theorem lookup_insert_eq (t : Table K V) (k k' : K) (v : V) :
    (t.insert k v).lookup k' = if k' = k then some v else t.lookup k' := by
  by_cases h : k' = k
  · subst h
    rw [if_pos rfl, AList.lookup_insert]
  · rw [if_neg h, AList.lookup_insert_ne h]

theorem lookup_erase_eq (t : Table K V) (k k' : K) :
    (t.erase k).lookup k' = if k' = k then none else t.lookup k' := by
  by_cases h : k' = k
  · subst h
    rw [if_pos rfl, AList.lookup_erase]
  · rw [if_neg h, AList.lookup_erase_ne h]

theorem erase_of_lookup_eq_none {t : Table K V} {k : K} (h : t.lookup k = none) :
    t.erase k = t :=
  AList.ext (List.kerase_of_notMem_keys (AList.lookup_eq_none.1 h))

/-! ## Visiting and updating values -/

/-- The values, in iteration order. -/
def values (t : Table K V) : List V :=
  t.entries.map Sigma.snd

theorem mem_values {t : Table K V} {v : V} : v ∈ t.values ↔ ∃ k, t.lookup k = some v := by
  simp only [values, List.mem_map, lookup_eq_some_iff]
  constructor
  · rintro ⟨⟨k, w⟩, he, rfl⟩
    exact ⟨k, he⟩
  · rintro ⟨k, he⟩
    exact ⟨⟨k, v⟩, he, rfl⟩

/-- Update every value in place, with its key at hand. -/
def mapVal (f : K → V → V) (t : Table K V) : Table K V :=
  ⟨t.entries.map (Sigma.map id f), List.NodupKeys.map₂ f _ t.nodupKeys⟩

@[simp]
theorem lookup_mapVal (f : K → V → V) (t : Table K V) (k : K) :
    (t.mapVal f).lookup k = (t.lookup k).map (f k) :=
  List.dlookup_map₂ k

omit [DecidableEq K] in
theorem mapVal_comm {f g : V → V} (h : ∀ v, g (f v) = f (g v)) (t : Table K V) :
    (t.mapVal fun _ => f).mapVal (fun _ => g) = (t.mapVal fun _ => g).mapVal fun _ => f := by
  refine AList.ext ?_
  simp only [mapVal, List.map_map]
  exact List.map_congr_left fun ⟨k, v⟩ _ => congrArg (Sigma.mk k) (h v)

/-- Update the value stored under `k` in place, if there is one. -/
def modify (k : K) (f : V → V) (t : Table K V) : Table K V :=
  t.mapVal fun k' v => if k' = k then f v else v

theorem lookup_modify (t : Table K V) (k k' : K) (f : V → V) :
    (t.modify k f).lookup k' = if k' = k then (t.lookup k').map f else t.lookup k' := by
  rw [modify, lookup_mapVal]
  by_cases h : k' = k
  · simp only [if_pos h]
  · simp only [if_neg h]
    exact Option.map_id'

theorem modify_modify (t : Table K V) (k : K) (f g : V → V) :
    (t.modify k f).modify k g = t.modify k (g ∘ f) := by
  refine AList.ext ?_
  simp only [modify, mapVal, List.map_map]
  refine List.map_congr_left fun ⟨k', v⟩ _ => ?_
  change (⟨k', if k' = k then g (if k' = k then f v else v) else if k' = k then f v else v⟩
    : Σ _ : K, V) = ⟨k', if k' = k then g (f v) else v⟩
  by_cases hk : k' = k
  · simp only [if_pos hk]
  · simp only [if_neg hk]

theorem modify_id (t : Table K V) (k : K) : t.modify k id = t := by
  refine AList.ext ?_
  simp only [modify, mapVal]
  refine (List.map_congr_left fun ⟨k', v⟩ _ => ?_).trans (List.map_id _)
  change (⟨k', if k' = k then v else v⟩ : Σ _ : K, V) = ⟨k', v⟩
  rw [ite_self]

theorem modify_congr {t : Table K V} {k : K} {v : V} {f g : V → V} (hk : t.lookup k = some v)
    (h : f v = g v) : t.modify k f = t.modify k g := by
  refine AList.ext ?_
  simp only [modify, mapVal]
  refine List.map_congr_left fun ⟨k', w⟩ he => ?_
  change (⟨k', if k' = k then f w else w⟩ : Σ _ : K, V) = ⟨k', if k' = k then g w else w⟩
  by_cases heq : k' = k
  · obtain rfl : w = v := by
      rw [← heq, lookup_eq_some_iff.2 he] at hk
      exact Option.some.inj hk
    rw [if_pos heq, if_pos heq, h]
  · rw [if_neg heq, if_neg heq]

/-- Updating everything after updating one value. -/
theorem mapVal_modify {f g u : V → V} (h : ∀ v, g (f v) = u (g v)) (k : K) (t : Table K V) :
    (t.modify k f).mapVal (fun _ => g) = (t.mapVal fun _ => g).modify k u := by
  refine AList.ext ?_
  simp only [modify, mapVal, List.map_map]
  refine List.map_congr_left fun ⟨k', v⟩ _ => ?_
  change (⟨k', g (if k' = k then f v else v)⟩ : Σ _ : K, V)
    = ⟨k', if k' = k then u (g v) else g v⟩
  by_cases hk : k' = k
  · rw [if_pos hk, if_pos hk, h]
  · rw [if_neg hk, if_neg hk]

theorem mapVal_insert (g : V → V) (k : K) (v : V) (t : Table K V) :
    AList.insert k (g v) (t.mapVal fun _ => g) = mapVal (fun _ => g) (t.insert k v) := by
  refine AList.ext ?_
  simp only [AList.entries_insert, mapVal, List.map_cons, Sigma.map, id, List.kerase,
    List.eraseP_map]
  rfl

theorem mapVal_erase (g : V → V) (k : K) (t : Table K V) :
    AList.erase k (t.mapVal fun _ => g) = mapVal (fun _ => g) (t.erase k) := by
  refine AList.ext ?_
  change List.kerase k (t.entries.map _) = (List.kerase k t.entries).map _
  simp only [List.kerase, List.eraseP_map]
  rfl

omit [DecidableEq K] in
theorem values_mapVal (g : V → V) (t : Table K V) :
    (t.mapVal fun _ => g).values = t.values.map g := by
  simp only [values, mapVal, List.map_map]
  rfl

/-- The keys whose entry satisfies `p`, in iteration order. -/
def keysWhere (p : K → V → Bool) (t : Table K V) : List K :=
  (t.entries.filter fun e => p e.1 e.2).map Sigma.fst

theorem mem_keysWhere {p : K → V → Bool} {t : Table K V} {k : K} :
    k ∈ t.keysWhere p ↔ ∃ v, t.lookup k = some v ∧ p k v = true := by
  simp only [keysWhere, List.mem_map, List.mem_filter, lookup_eq_some_iff]
  constructor
  · rintro ⟨⟨k', v⟩, ⟨he, hp⟩, rfl⟩
    exact ⟨v, he, hp⟩
  · rintro ⟨v, he, hp⟩
    exact ⟨⟨k, v⟩, ⟨he, hp⟩, rfl⟩

omit [DecidableEq K] in
theorem nodup_keysWhere (p : K → V → Bool) (t : Table K V) : (t.keysWhere p).Nodup := by
  have hkeys : (t.entries.map Sigma.fst).Nodup := t.nodupKeys
  exact hkeys.sublist (List.Sublist.map _ List.filter_sublist)

/-- Erase every key of a list. -/
def eraseAll (ks : List K) (t : Table K V) : Table K V :=
  ks.foldl (fun t k => t.erase k) t

theorem lookup_eraseAll (ks : List K) (t : Table K V) (k : K) :
    (t.eraseAll ks).lookup k = if k ∈ ks then none else t.lookup k := by
  unfold eraseAll
  induction ks generalizing t with
  | nil => simp
  | cons k' rest ih =>
      rw [List.foldl_cons, ih, lookup_erase_eq]
      by_cases hk : k = k' <;> by_cases hrest : k ∈ rest <;> simp [hk, hrest]

/-- Remove the entries that satisfy `p` and return their keys. -/
def drain (p : K → V → Bool) (t : Table K V) : List K × Table K V :=
  (t.keysWhere p, t.eraseAll (t.keysWhere p))

theorem mem_drain {p : K → V → Bool} {t : Table K V} {k : K} :
    k ∈ (t.drain p).1 ↔ ∃ v, t.lookup k = some v ∧ p k v = true :=
  mem_keysWhere

theorem lookup_drain {p : K → V → Bool} {t : Table K V} {k : K} {v : V} :
    (t.drain p).2.lookup k = some v ↔ t.lookup k = some v ∧ p k v = false := by
  simp only [drain, lookup_eraseAll, mem_keysWhere]
  cases hl : t.lookup k with
  | none => simp
  | some w =>
      cases hp : p k w with
      | true =>
          simp only [Option.some.injEq, exists_eq_left', hp, if_true, reduceCtorEq, false_iff,
            not_and]
          rintro rfl
          simp [hp]
      | false =>
          simp only [Option.some.injEq, exists_eq_left', hp, Bool.false_eq_true, if_false]
          constructor
          · rintro rfl
            exact ⟨rfl, hp⟩
          · exact And.left

/-! ## Counting values -/

/-- How many values satisfy `p`. -/
def countVal (p : V → Bool) (t : Table K V) : ℕ :=
  t.values.countP p

theorem countVal_insert_of_notMem (p : V → Bool) {t : Table K V} {k : K} (v : V) (h : k ∉ t) :
    countVal p (t.insert k v) = t.countVal p + if p v then 1 else 0 := by
  rw [countVal, values, AList.entries_insert_of_notMem h, List.map_cons, List.countP_cons]
  rfl

private theorem countP_kerase (p : V → Bool) {l : List (Σ _ : K, V)} (hl : l.NodupKeys) {k : K}
    {v : V} (h : ⟨k, v⟩ ∈ l) :
    (l.map Sigma.snd).countP p = ((l.kerase k).map Sigma.snd).countP p + if p v then 1 else 0 := by
  induction l with
  | nil => simp at h
  | cons e rest ih =>
      obtain ⟨k', w⟩ := e
      rw [List.nodupKeys_cons] at hl
      rcases List.mem_cons.1 h with heq | hmem
      · obtain ⟨rfl, hw⟩ := Sigma.mk.inj heq
        obtain rfl := eq_of_heq hw
        have herase : List.kerase k (⟨k, v⟩ :: rest) = rest := List.kerase_cons_eq rfl
        rw [herase, List.map_cons, List.countP_cons]
      · have hne : k ≠ k' := by
          rintro rfl
          exact hl.1 (List.mem_keys.2 ⟨v, hmem⟩)
        have herase : List.kerase k (⟨k', w⟩ :: rest) = ⟨k', w⟩ :: rest.kerase k :=
          List.kerase_cons_ne hne
        rw [herase, List.map_cons, List.map_cons, List.countP_cons, List.countP_cons, ih hl.2 hmem]
        omega

theorem countVal_erase (p : V → Bool) {t : Table K V} {k : K} {v : V} (h : t.lookup k = some v) :
    t.countVal p = countVal p (t.erase k) + if p v then 1 else 0 :=
  countP_kerase p t.nodupKeys (lookup_eq_some_iff.1 h)

/-- Updating a value in place without changing whether it satisfies `p`. -/
theorem countVal_modify {p : V → Bool} {f : V → V} (h : ∀ v, p (f v) = p v) (k : K)
    (t : Table K V) : countVal p (t.modify k f) = t.countVal p := by
  simp only [countVal, values, modify, mapVal, List.map_map, List.countP_map]
  refine List.countP_congr fun ⟨k', v⟩ _ => ?_
  change p (if k' = k then f v else v) = true ↔ p v = true
  by_cases hk : k' = k
  · rw [if_pos hk, h]
  · rw [if_neg hk]

omit [DecidableEq K] in
theorem countVal_le (p : V → Bool) (t : Table K V) : t.countVal p ≤ t.countVal fun _ => true :=
  List.countP_mono_left fun _ _ _ => rfl

/-- A table with fewer entries has no more values that satisfy `p`. -/
theorem countVal_le_of_lookup (p : V → Bool) {t t' : Table K V}
    (h : ∀ k v, t'.lookup k = some v → t.lookup k = some v) : t'.countVal p ≤ t.countVal p := by
  have hsub : t'.entries ⊆ t.entries := by
    rintro ⟨k, v⟩ he
    exact lookup_eq_some_iff.1 (h k v (lookup_eq_some_iff.2 he))
  have hperm : t'.entries.Subperm t.entries := List.subperm_of_subset t'.nodupKeys.nodup hsub
  obtain ⟨l, hl, hsublist⟩ := hperm
  have hvals : (l.map Sigma.snd).Perm t'.values := List.Perm.map _ hl
  calc t'.countVal p = (l.map Sigma.snd).countP p := (hvals.countP_eq p).symm
    _ ≤ t.countVal p := (hsublist.map Sigma.snd).countP_le

/-- If every key occurs in a list at most as often as its value allows, the list is no longer than
    all the values allow together. -/
theorem length_le_sum_values (f : V → ℕ) {t : Table K V} {l : List K} (hmem : ∀ k ∈ l, k ∈ t)
    (hcount : ∀ k v, t.lookup k = some v → l.count k ≤ f v) :
    l.length ≤ t.values.foldr (fun v n => f v + n) 0 := by
  have hsub : l.toFinset ⊆ t.keys.toFinset := by
    intro k hk
    exact List.mem_toFinset.2 (AList.mem_keys.1 (hmem k (List.mem_toFinset.1 hk)))
  have hentries : ∀ e ∈ t.entries, l.count e.1 ≤ f e.2 :=
    fun e he => hcount e.1 e.2 (lookup_eq_some_iff.2 he)
  calc l.length = ∑ k ∈ l.toFinset, l.count k := (List.sum_toFinset_count_eq_length l).symm
    _ ≤ ∑ k ∈ t.keys.toFinset, l.count k := Finset.sum_le_sum_of_subset hsub
    _ = (t.keys.map fun k => l.count k).sum := List.sum_toFinset _ t.keys_nodup
    _ = (t.entries.map fun e => l.count e.1).sum := by
      rw [AList.keys, List.keys, List.map_map]
      rfl
    _ ≤ (t.entries.map fun e => f e.2).sum := List.sum_le_sum hentries
    _ = t.values.foldr (fun v n => f v + n) 0 := by
      rw [values, List.foldr_map, List.sum_eq_foldr, List.foldr_map]

/-! ## Iteration order -/

/-- The same map with another iteration order. -/
def Rehash (t t' : Table K V) : Prop :=
  t.entries.Perm t'.entries

theorem Rehash.lookup_eq {t t' : Table K V} (h : Rehash t t') (k : K) :
    t'.lookup k = t.lookup k :=
  (AList.perm_lookup h).symm

omit [DecidableEq K] in
/-- A table that looks the same up to `g` can be reordered to keep looking the same. -/
theorem Rehash.lift {g : V → V} {t t' u : Table K V} (h : Rehash t t')
    (hg : (t.mapVal fun _ => g) = u.mapVal fun _ => g) :
    ∃ u' : Table K V, Rehash u u' ∧ (t'.mapVal fun _ => g) = u'.mapVal fun _ => g := by
  have hentries : (t'.mapVal fun _ => g).entries.Perm (u.mapVal fun _ => g).entries :=
    hg ▸ (h.symm.map _)
  have hall : List.Forall₂ (fun a b => a = Sigma.map id (fun _ => g) b)
      (u.mapVal fun _ => g).entries u.entries :=
    List.forall₂_map_left_iff.2 (List.forall₂_same.2 fun _ _ => rfl)
  obtain ⟨m, hm, hperm⟩ := List.perm_comp_forall₂ hentries hall
  refine ⟨⟨m, (List.perm_nodupKeys hperm).2 u.nodupKeys⟩, hperm.symm, AList.ext ?_⟩
  have hmap : (t'.mapVal fun _ => g).entries = m.map (Sigma.map id fun _ => g) := by
    rw [← List.forall₂_eq_eq_eq, List.forall₂_map_right_iff]
    exact hm
  exact hmap

omit [DecidableEq K] in
theorem Rehash.countVal_eq {t t' : Table K V} (h : Rehash t t') (p : V → Bool) :
    t'.countVal p = t.countVal p := by
  have hvals : t.values.Perm t'.values := List.Perm.map _ h
  exact (hvals.countP_eq p).symm

end Table
