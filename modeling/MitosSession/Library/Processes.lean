import MitosSession.Library.Loop

set_option autoImplicit false

/-! # Child processes and the keys they run for

A program starts child processes, each for some key, and remembers for each key the process that
runs for it. The kernel has a table of its own: which children there are, a child that has exited
being one until the program waits for it. An id is free for a new child only while the table does
not have it, so a program that remembers a child it has already waited for may come to signal a
stranger.

`Tracks held ops held'` is what keeps that from happening: whatever the kernel's table, if what the
program remembers is right before the operations it is right after them, and every process killed
was running for a key. The rules say which operation goes with which change of the program's
memory. -/

namespace Processes

/-- What a child was started for. -/
inductive Owner (K : Type*) where
  | key (k : K)
  | other
deriving DecidableEq

/-- The kernel's table of a program's children. -/
abbrev Children (P K : Type*) := P → Option (Owner K)

/-- What a program does to its children. -/
inductive Op (P K : Type*) where
  /-- A process is started for a key. -/
  | spawned (p : P) (k : K)
  /-- A process is killed and waited for. -/
  | killed (p : P)
  /-- A process that has exited is waited for. -/
  | reaped (p : P)

variable {P K : Type*} [DecidableEq P]

/-- The kernel can do this: an id is given only if it is free, and only a child is waited for. -/
def Op.Possible (children : Children P K) : Op P K → Prop
  | .spawned p _ => children p = none
  | .killed _ => True
  | .reaped p => (children p).isSome = true

/-- A process that is killed runs for a key. -/
def Op.Owned (children : Children P K) : Op P K → Prop
  | .killed p => ∃ k, children p = some (.key k)
  | _ => True

/-- The table afterwards. -/
def Op.after (children : Children P K) : Op P K → Children P K
  | .spawned p k => Function.update children p (some (.key k))
  | .killed p => Function.update children p none
  | .reaped p => Function.update children p none

/-- The operations can follow each other. -/
def Possible (children : Children P K) : List (Op P K) → Prop
  | [] => True
  | op :: rest => op.Possible children ∧ Possible (op.after children) rest

/-- Every process killed on the way runs for a key then. -/
def Owned (children : Children P K) : List (Op P K) → Prop
  | [] => True
  | op :: rest => op.Owned children ∧ Owned (op.after children) rest

/-- The table after some operations. -/
def after (children : Children P K) (ops : List (Op P K)) : Children P K :=
  ops.foldl Op.after children

/-- The program remembers for each key the child that runs for it, and there is no other. -/
def Accounted (children : Children P K) (held : K → Option P) : Prop :=
  ∀ p k, children p = some (.key k) ↔ held k = some p

/-- The operations go with a change of what the program remembers. -/
def Tracks (held : K → Option P) (ops : List (Op P K)) (held' : K → Option P) : Prop :=
  ∀ children, Accounted children held → Possible children ops →
    Accounted (after children ops) held' ∧ Owned children ops

/-! ## Sequences -/

theorem after_append (children : Children P K) (ops ops' : List (Op P K)) :
    after children (ops ++ ops') = after (after children ops) ops' :=
  List.foldl_append

theorem possible_append {children : Children P K} {ops ops' : List (Op P K)} :
    Possible children (ops ++ ops')
      ↔ Possible children ops ∧ Possible (after children ops) ops' := by
  induction ops generalizing children with
  | nil => exact iff_of_eq (true_and _).symm
  | cons op rest ih =>
      rw [List.cons_append, Possible, Possible, ih, and_assoc]
      rfl

theorem owned_append {children : Children P K} {ops ops' : List (Op P K)} :
    Owned children (ops ++ ops') ↔ Owned children ops ∧ Owned (after children ops) ops' := by
  induction ops generalizing children with
  | nil => exact iff_of_eq (true_and _).symm
  | cons op rest ih =>
      rw [List.cons_append, Owned, Owned, ih, and_assoc]
      rfl

theorem tracks_seqClosed : SeqClosed (Tracks (P := P) (K := K)) where
  refl _ _ haccounted _ := ⟨haccounted, trivial⟩
  trans := by
    intro held held' held'' ops ops' h h' children haccounted hpossible
    obtain ⟨hfirst, hsecond⟩ := possible_append.1 hpossible
    obtain ⟨haccounted', howned⟩ := h children haccounted hfirst
    obtain ⟨haccounted'', howned'⟩ := h' _ haccounted' hsecond
    refine ⟨?_, owned_append.2 ⟨howned, howned'⟩⟩
    rw [after_append]
    exact haccounted''

/-! ## One operation -/

/-- A child that runs for no key is waited for. -/
theorem Tracks.reap_other {held : K → Option P} {p : P} (hnone : ∀ k, held k ≠ some p) :
    Tracks held [.reaped p] held := by
  refine fun children h _ => ⟨fun q k => ?_, trivial, trivial⟩
  change Function.update children p none q = _ ↔ _
  by_cases hq : q = p
  · subst hq
    rw [Function.update_self]
    exact iff_of_false (by simp) (hnone k)
  · rw [Function.update_of_ne hq]
    exact h q k

/-- A child for no key is started. -/
theorem Accounted.other {children : Children P K} {held : K → Option P} {p : P}
    (h : Accounted children held) (hfree : children p = none) :
    Accounted (Function.update children p (some .other)) held := by
  intro q k
  by_cases hq : q = p
  · subst hq
    rw [Function.update_self]
    refine iff_of_false (by simp) fun hk => ?_
    have hused := (h q k).2 hk
    rw [hfree] at hused
    cases hused
  · rw [Function.update_of_ne hq]
    exact h q k

variable [DecidableEq K]

/-- A process that is gone is the one a key forgets. -/
theorem Accounted.forget {children : Children P K} {held : K → Option P} {p : P} {k : K}
    (h : Accounted children held) (hheld : held k = some p) :
    Accounted (Function.update children p none) (Function.update held k none) := by
  intro q k'
  by_cases hq : q = p
  · subst hq
    rw [Function.update_self]
    by_cases hk : k' = k
    · rw [hk, Function.update_self]
      simp
    · rw [Function.update_of_ne hk]
      -- a process runs for one key only
      refine iff_of_false (by simp) fun hk' => hk ?_
      have howner := ((h q k').2 hk').symm.trans ((h q k).2 hheld)
      simpa using howner
  · rw [Function.update_of_ne hq]
    by_cases hk : k' = k
    · rw [hk, Function.update_self, h q k, hheld]
      simp [Ne.symm hq]
    · rw [Function.update_of_ne hk]
      exact h q k'

theorem Tracks.spawn {held : K → Option P} {k : K} (hfree : held k = none) (p : P) :
    Tracks held [.spawned p k] (Function.update held k (some p)) := by
  intro children h hpossible
  refine ⟨fun q k' => ?_, trivial, trivial⟩
  change Function.update children p (some (.key k)) q = _ ↔ _
  by_cases hq : q = p
  · subst hq
    rw [Function.update_self]
    by_cases hk : k' = k
    · rw [hk, Function.update_self]
      simp
    · rw [Function.update_of_ne hk]
      -- the id was free, so nothing else was remembered under it
      refine iff_of_false (by simpa using Ne.symm hk) fun hk' => ?_
      have hused := (h q k').2 hk'
      rw [hpossible.1] at hused
      cases hused
  · rw [Function.update_of_ne hq]
    by_cases hk : k' = k
    · rw [hk, Function.update_self, h q k, hfree]
      simp [Ne.symm hq]
    · rw [Function.update_of_ne hk]
      exact h q k'

theorem Tracks.kill {held : K → Option P} {p : P} {k : K} (hheld : held k = some p) :
    Tracks held [.killed p] (Function.update held k none) :=
  fun _ h _ => ⟨h.forget hheld, ⟨k, (h p k).2 hheld⟩, trivial⟩

theorem Tracks.reap {held : K → Option P} {p : P} {k : K} (hheld : held k = some p) :
    Tracks held [.reaped p] (Function.update held k none) :=
  fun _ h _ => ⟨h.forget hheld, trivial, trivial⟩

end Processes
