import CrossAudit.Text.Blank
import CrossAudit.Text.Word
import Mathlib.Tactic.Common

/-!
# Classes of characters that do not meet

Blanks are given by ranges of code points, as word characters and decimal digits are.

Main results:

- Theorem `isBlank_of_isWord`: no word character is a blank.
- Theorem `isDecimal_of_isBlank`: no blank is a decimal digit.
-/

namespace CrossAudit
namespace Text

variable {c : Char}

/-- The code points of blanks, in closed ranges. -/
def blankRanges : List (Nat × Nat) := [
  (0x9, 0xd), (0x1c, 0x20), (0x85, 0x85), (0xa0, 0xa0), (0x1680, 0x1680), (0x2000, 0x200a),
  (0x2028, 0x2029), (0x202f, 0x202f), (0x205f, 0x205f), (0x3000, 0x3000)]

theorem inRanges_iff {table : List (Nat × Nat)} {n : Nat} :
    inRanges table n = true ↔ ∃ r ∈ table, r.1 ≤ n ∧ n ≤ r.2 := by
  simp [inRanges]

theorem isBlank_iff : isBlank c = true ↔ inRanges blankRanges c.toNat = true := by
  simp only [isBlank, inRanges, blankRanges, List.any_cons, List.any_nil, Bool.or_eq_true,
    Bool.and_eq_true, decide_eq_true_eq, beq_iff_eq, Bool.false_eq_true, or_false]
  omega

/-- Whether no range of one table meets one of the other. -/
def areApart (left right : List (Nat × Nat)) : Bool :=
  left.all fun l => right.all fun r => l.2 < r.1 || r.2 < l.1

/-- No code point lies in ranges of two tables that are apart. -/
theorem inRanges_of_areApart {left right : List (Nat × Nat)} (h : areApart left right = true)
    {n : Nat} (hn : inRanges left n = true) : inRanges right n = false := by
  rw [← Bool.not_eq_true, inRanges_iff]
  rintro ⟨r, hr, hright⟩
  obtain ⟨l, hl, hleft⟩ := inRanges_iff.1 hn
  have hapart := List.all_eq_true.1 (List.all_eq_true.1 h l hl) r hr
  simp only [Bool.or_eq_true, decide_eq_true_eq] at hapart
  omega

theorem isDecimal_iff : isDecimal c = true ↔ inRanges digitRanges c.toNat = true := by
  rw [isDecimal, digitValue?, Option.isSome_map, List.find?_isSome, inRanges_iff]
  simp

/-- No blank is a decimal digit. -/
theorem isDecimal_of_isBlank (h : isBlank c = true) : isDecimal c = false := by
  have hapart : areApart blankRanges digitRanges = true := by decide +kernel
  rw [← Bool.not_eq_true, isDecimal_iff, inRanges_of_areApart hapart (isBlank_iff.1 h)]
  exact Bool.false_ne_true

/-- No word character is a blank. -/
theorem isBlank_of_isWord (h : isWord c = true) : isBlank c = false := by
  have hapart : areApart letterRanges blankRanges = true := by decide +kernel
  rw [← Bool.not_eq_true, isBlank_iff, Bool.not_eq_true]
  simp only [isWord, isLetterOrNumber, Bool.or_eq_true, beq_iff_eq] at h
  rcases h with rfl | h
  · decide
  · split at h
    · rename_i hascii
      -- The ASCII letters and digits, as the library defines them.
      change ((decide ('A'.val ≤ c.val ∧ c.val ≤ 'Z'.val) ||
        (decide ('a'.val ≤ c.val) && decide (c.val ≤ 'z'.val))) ||
        (decide ('0'.val ≤ c.val) && decide (c.val ≤ '9'.val))) = true at h
      simp only [Bool.or_eq_true, Bool.and_eq_true, decide_eq_true_eq,
        UInt32.le_iff_toNat_le] at h
      change ((65 ≤ c.toNat ∧ c.toNat ≤ 90) ∨ (97 ≤ c.toNat ∧ c.toNat ≤ 122)) ∨
        (48 ≤ c.toNat ∧ c.toNat ≤ 57) at h
      simp only [inRanges, blankRanges, List.any_cons, List.any_nil, Bool.or_eq_false_iff,
        Bool.and_eq_false_iff, decide_eq_false_iff_not, and_true]
      omega
    · exact inRanges_of_areApart hapart h

end Text
end CrossAudit
