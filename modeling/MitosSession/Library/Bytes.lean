import Mathlib.Algebra.Group.Nat.Defs

set_option autoImplicit false

/-! # Byte strings

Little-endian numbers of a fixed width, text in UTF-8, and taking off a stream exactly so many
bytes or everything up to a mark. `linesThrough` are the pieces that taking up to a mark gives
until nothing is left. -/

/-- `n` in `width` bytes, the least significant first. What does not fit is cut off. -/
def leBytes : ℕ → ℕ → List UInt8
  | 0, _ => []
  | width + 1, n => UInt8.ofNat n :: leBytes width (n / 256)

/-- The number that bytes stand for, the least significant first. -/
def ofLeBytes : List UInt8 → ℕ
  | [] => 0
  | byte :: rest => byte.toNat + 256 * ofLeBytes rest

@[simp]
theorem length_leBytes (width n : ℕ) : (leBytes width n).length = width := by
  induction width generalizing n with
  | zero => rfl
  | succ width ih => rw [leBytes, List.length_cons, ih]

theorem ofLeBytes_leBytes {width n : ℕ} (h : n < 256 ^ width) :
    ofLeBytes (leBytes width n) = n := by
  induction width generalizing n with
  | zero =>
      rw [Nat.pow_zero, Nat.lt_one_iff] at h
      exact h.symm
  | succ width ih =>
      have hdiv : n / 256 < 256 ^ width := by
        rw [Nat.pow_succ, Nat.mul_comm] at h
        exact Nat.div_lt_of_lt_mul h
      rw [leBytes, ofLeBytes, ih hdiv, UInt8.toNat_ofNat']
      exact Nat.mod_add_div n 256

/-- The first `n` elements and the others, if there are so many. -/
def takeExact {α : Type*} (n : ℕ) (l : List α) : Option (List α × List α) :=
  if n ≤ l.length then some (l.take n, l.drop n) else none

theorem takeExact_append {α : Type*} {n : ℕ} {l : List α} (h : l.length = n) (rest : List α) :
    takeExact n (l ++ rest) = some (l, rest) := by
  subst h
  rw [takeExact, if_pos (by rw [List.length_append]; exact Nat.le_add_right ..), List.take_left,
    List.drop_left]

theorem takeExact_eq_none {α : Type*} {n : ℕ} {l : List α} (h : l.length < n) :
    takeExact n l = none := by
  rw [takeExact, if_neg (Nat.not_le.2 h)]

/-! ## Up to a mark -/

section Lines

variable {α : Type*} (p : α → Bool)

/-- The elements up to the first that satisfies `p`, itself included, and those after it. -/
def takeThrough : List α → List α × List α
  | [] => ([], [])
  | a :: rest =>
      if p a then ([a], rest) else (a :: (takeThrough rest).1, (takeThrough rest).2)

/-- The pieces of a list that end after an element that satisfies `p`; the last may not. -/
def linesThrough : List α → List (List α)
  | [] => []
  | a :: rest =>
      if p a then
        [a] :: linesThrough rest
      else
        (a :: (linesThrough rest).headD []) :: (linesThrough rest).tail

/-- The first piece is what is taken first. -/
theorem linesThrough_cons {l : List α} (h : l ≠ []) :
    linesThrough p l = (takeThrough p l).1 :: linesThrough p (takeThrough p l).2 := by
  induction l with
  | nil => exact absurd rfl h
  | cons a rest ih =>
      rw [linesThrough, takeThrough]
      by_cases ha : p a = true
      · rw [if_pos ha, if_pos ha]
      · rw [if_neg ha, if_neg ha]
        cases rest with
        | nil => rfl
        | cons b rest => rw [ih (by simp)]; rfl

example : linesThrough (· = 0) [1, 0, 0, 2] = [[1, 0], [0], [2]] := by decide

theorem takeThrough_ne_nil {l : List α} (h : l ≠ []) : (takeThrough p l).1 ≠ [] := by
  cases l with
  | nil => exact absurd rfl h
  | cons a rest =>
      rw [takeThrough]
      split <;> simp

theorem length_takeThrough (l : List α) :
    (takeThrough p l).1.length + (takeThrough p l).2.length = l.length := by
  induction l with
  | nil => rfl
  | cons a rest ih =>
      rw [takeThrough]
      split
      · simp [Nat.add_comm]
      · simp only [List.length_cons]
        omega

end Lines

/-! ## Text -/

/-- The text that bytes are the UTF-8 encoding of. -/
def decodeUtf8 (bytes : List UInt8) : Option (List Char) :=
  bytes.toByteArray.utf8Decode?.map Array.toList

theorem decodeUtf8_encode (text : List Char) :
    decodeUtf8 (text.flatMap String.utf8EncodeChar) = some text := by
  have hdecode : (text.flatMap String.utf8EncodeChar).toByteArray.utf8Decode? = some text.toArray :=
    List.utf8Decode?_utf8Encode
  rw [decodeUtf8, hdecode]
  rfl
