import MitosSession.Basic
import MitosSession.Library.Fields

set_option autoImplicit false

/-! # Text

`std::str` as the parsers of the daemon use it, on lists of characters: lines, trimming and
decimal numbers. -/

namespace MitosSession

/-- `str::lines`: a line ends at `'\n'` or at `"\r\n"`, and the last line ending is optional. -/
def lines (text : List Char) : List (List Char) :=
  let stripCr (line : List Char) : List Char :=
    if line.getLast? = some '\r' then line.dropLast else line
  let pieces := text.splitOn '\n'
  let last := pieces.getLast?.getD []
  pieces.dropLast.map stripCr ++ if last.isEmpty then [] else [last]

/-- `char::is_whitespace`: the Unicode property `White_Space`. -/
def isWhitespace (c : Char) : Bool :=
  let n := c.toNat
  (9 ≤ n ∧ n ≤ 13) ∨ n = 0x20 ∨ n = 0x85 ∨ n = 0xa0 ∨ n = 0x1680 ∨ (0x2000 ≤ n ∧ n ≤ 0x200a)
    ∨ n = 0x2028 ∨ n = 0x2029 ∨ n = 0x202f ∨ n = 0x205f ∨ n = 0x3000

/-- `str::trim`. -/
def trim (text : List Char) : List Char :=
  (text.dropWhile isWhitespace).rdropWhile isWhitespace

/-- `str::parse::<u32>`: decimal digits, after a `'+'` or not. -/
def parseU32 (text : List Char) : Option ℕ :=
  let digits := if text.head? = some '+' then text.tail else text
  if digits.isEmpty || !digits.all Char.isDigit then
    none
  else
    let n := Nat.ofDigitChars 10 digits 0
    if n < u32Size then some n else none

/-! ## Trimming -/

/-- Nothing is trimmed off a text with no whitespace at either end. -/
theorem trim_eq_self_iff {text : List Char} :
    trim text = text ↔ (∀ c ∈ text.head?, isWhitespace c = false)
      ∧ ∀ c ∈ text.getLast?, isWhitespace c = false := by
  constructor
  · intro h
    -- both halves only shorten the text, so neither has dropped anything
    have hprefix : (trim text).length ≤ (text.dropWhile isWhitespace).length :=
      (List.rdropWhile_prefix isWhitespace _).length_le
    rw [h] at hprefix
    have hstart : text.dropWhile isWhitespace = text :=
      (List.dropWhile_suffix isWhitespace).eq_of_length_le hprefix
    have hend : text.rdropWhile isWhitespace = text := by
      rw [trim, hstart] at h
      exact h
    exact ⟨dropWhile_eq_self_iff_head?.1 hstart, rdropWhile_eq_self_iff_getLast?.1 hend⟩
  · rintro ⟨hhead, hlast⟩
    rw [trim, dropWhile_eq_self_iff_head?.2 hhead, rdropWhile_eq_self_iff_getLast?.2 hlast]

/-- Two texts that are trimmed, and between them something that is no whitespace. -/
theorem trim_append_cons {left right : List Char} {c : Char} (hleft : trim left = left)
    (hright : trim right = right) (hc : isWhitespace c = false) :
    trim (left ++ c :: right) = left ++ c :: right := by
  rw [trim_eq_self_iff] at hleft hright ⊢
  constructor
  · cases left with
    | nil => simpa using hc
    | cons a rest => exact hleft.1
  · rw [List.getLast?_append, List.getLast?_cons]
    cases hlast : right.getLast? with
    | none => simpa using hc
    | some a => simpa using hright.2 a hlast

theorem trim_intercalate {c : Char} (hc : isWhitespace c = false) {fields : List (List Char)}
    (h : ∀ field ∈ fields, trim field = field) :
    trim ([c].intercalate fields) = [c].intercalate fields := by
  induction fields with
  | nil => rfl
  | cons field rest ih =>
      obtain ⟨hfield, hrest⟩ := List.forall_mem_cons.1 h
      cases rest with
      | nil => rwa [List.intercalate_singleton]
      | cons next rest =>
          rw [List.intercalate_cons_cons, List.append_assoc]
          exact trim_append_cons hfield (ih hrest) hc

theorem trim_concat {c : Char} (hc : isWhitespace c = true) (text : List Char) :
    trim (text ++ [c]) = trim text := by
  unfold trim
  rw [List.dropWhile_append]
  split
  · rename_i hnil
    rw [List.isEmpty_iff] at hnil
    rw [hnil, List.dropWhile_cons_of_pos hc, List.dropWhile_nil]
  · exact List.rdropWhile_concat_pos _ _ _ hc

/-! ## Lines -/

/-- The last line need not be terminated. -/
theorem lines_unterminated {line : List Char} (h : '\n' ∉ line) :
    lines line = if line.isEmpty then [] else [line] := by
  simp [lines, List.splitOn_eq_singleton h]

/-- A line ends at the first newline. What is cut off its end is whitespace. -/
theorem lines_terminated {line : List Char} (h : '\n' ∉ line) (rest : List Char) :
    ∃ line', lines (line ++ '\n' :: rest) = line' :: lines rest ∧ trim line' = trim line := by
  refine ⟨if line.getLast? = some '\r' then line.dropLast else line, ?_, ?_⟩
  · have hpieces : (line ++ '\n' :: rest).splitOn '\n' = line :: rest.splitOn '\n' :=
      List.splitOn_append_cons_self_of_not_mem h rest
    obtain ⟨first, others, hrest⟩ := List.exists_cons_of_ne_nil (List.splitOn_ne_nil '\n' rest)
    simp only [lines, hpieces, hrest, List.dropLast_cons_cons, List.getLast?_cons_cons,
      List.map_cons, List.cons_append]
  · split
    · rename_i hlast
      obtain ⟨init, rfl⟩ := List.getLast?_eq_some_iff.1 hlast
      rw [List.dropLast_concat, trim_concat (by decide)]
    · rfl

/-! ## Decimal numbers -/

theorem toList_toString (n : ℕ) : (toString n).toList = Nat.toDigits 10 n := by
  rw [Nat.toString_eq_ofList_toDigits, String.toList_ofList]

/-- What is printed of a number is digits. -/
theorem isDigit_of_mem_toString {n : ℕ} {c : Char} (h : c ∈ (toString n).toList) :
    c.isDigit = true := by
  rw [toList_toString] at h
  exact Nat.isDigit_of_mem_toDigits (by decide) (by decide) h

theorem isWhitespace_of_isDigit {c : Char} (h : c.isDigit = true) : isWhitespace c = false := by
  have hrange : 48 ≤ c.toNat ∧ c.toNat ≤ 57 := by
    simpa [Char.isDigit, UInt32.le_iff_toNat_le] using h
  simp only [isWhitespace, decide_eq_false_iff_not]
  omega

/-- Printing a `u32` and parsing it again. -/
theorem parseU32_toString {n : ℕ} (h : n < u32Size) : parseU32 (toString n).toList = some n := by
  have hsign : (toString n).toList.head? ≠ some '+' := by
    intro hplus
    cases isDigit_of_mem_toString (List.mem_of_head? hplus)
  have hdigits : (toString n).toList.all Char.isDigit = true :=
    List.all_eq_true.2 fun _ hc => isDigit_of_mem_toString hc
  have hne : (toString n).toList.isEmpty = false := by
    rw [List.isEmpty_eq_false_iff, toList_toString]
    exact Nat.toDigits_ne_nil
  have hvalue : Nat.ofDigitChars 10 (toString n).toList 0 = n := by
    rw [toList_toString]
    exact Nat.ofDigitChars_ten_toDigits
  simp only [parseU32, if_neg hsign, hne, hdigits, hvalue, if_pos h, Bool.not_true, Bool.or_false,
    Bool.false_eq_true, if_false]

end MitosSession
