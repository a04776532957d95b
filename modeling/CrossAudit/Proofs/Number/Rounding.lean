import CrossAudit.Number.Binary64
import Mathlib.Algebra.Order.Field.Power
import Mathlib.Algebra.Order.Ring.Abs
import Mathlib.Algebra.Order.Ring.Rat
import Mathlib.Data.Rat.Floor
import Mathlib.Tactic.Linarith
import Mathlib.Tactic.NormNum
import Mathlib.Tactic.Ring

/-!
# How far rounding leads away

A number is scaled so that it has 53 bits before the point, and then rounded to an integer; that
leads away by half a unit at most.  A number of 53 bits is at least as large as the unit times
`2 ^ 52`, so the error is at most the number divided by `2 ^ 53`.

Main results:

- Theorem `abs_halfEven_sub_le`: rounding to an integer leads away by a half at most.
- Theorem `binaryLog_spec`: the binary logarithm is the one.
- Theorem `exists_ofRat_eq_finite`: a number that is neither tiny nor huge is rounded to a finite
  one, with a small relative error.
-/

namespace CrossAudit

/-- Rounding to an integer leads away by a half at most. -/
theorem Rounding.abs_halfEven_sub_le (q : ℚ) : |(halfEven q : ℚ) - q| ≤ 1 / 2 := by
  have hlow : (q.floor : ℚ) ≤ q := Int.floor_le q
  have hhigh : q < (q.floor : ℚ) + 1 := Int.lt_floor_add_one q
  unfold halfEven
  dsimp only
  rw [abs_le]
  split_ifs <;> push_cast <;> constructor <;> linarith

theorem Rounding.halfEven_nonneg {q : ℚ} (h : 0 ≤ q) : 0 ≤ halfEven q := by
  have hfloor : 0 ≤ q.floor := Int.floor_nonneg.2 h
  unfold halfEven
  dsimp only
  split_ifs <;> omega

namespace Scaled

/-- The binary logarithm of a positive number. -/
theorem binaryLog_spec {q : ℚ} (h : 0 < q) :
    (2 : ℚ) ^ binaryLog q ≤ q ∧ q < (2 : ℚ) ^ (binaryLog q + 1) := by
  have hnum : q.num.natAbs ≠ 0 := Int.natAbs_ne_zero.2 (Rat.num_pos.2 h).ne'
  have hden : (0 : ℚ) < q.den := Nat.cast_pos.2 q.den_pos
  have hq : q * q.den = q.num.natAbs := by
    have habs : ((q.num.natAbs : ℤ) : ℚ) = q.num := by
      rw [Int.natAbs_of_nonneg (Rat.num_pos.2 h).le]
    rw [Rat.mul_den_eq_num, ← habs, Int.cast_natCast]
  set a := q.num.natAbs.log2
  set b := q.den.log2
  have ha : (2 : ℚ) ^ (a : ℤ) ≤ q.num.natAbs := by
    exact_mod_cast Nat.log2_self_le hnum
  have ha' : (q.num.natAbs : ℚ) < (2 : ℚ) ^ (a : ℤ) * 2 := by
    exact_mod_cast Nat.pow_succ 2 a ▸ Nat.lt_log2_self
  have hb : (2 : ℚ) ^ (b : ℤ) ≤ q.den := by
    exact_mod_cast Nat.log2_self_le q.den_pos.ne'
  have hb' : (q.den : ℚ) < (2 : ℚ) ^ (b : ℤ) * 2 := by
    exact_mod_cast Nat.pow_succ 2 b ▸ Nat.lt_log2_self
  have hguess : (2 : ℚ) ^ ((a : ℤ) - b) * (2 : ℚ) ^ (b : ℤ) = (2 : ℚ) ^ (a : ℤ) := by
    rw [← zpow_add₀ two_ne_zero, Int.sub_add_cancel]
  have hpos : (0 : ℚ) < (2 : ℚ) ^ ((a : ℤ) - b) := zpow_pos two_pos _
  -- The quotient of the leading powers is at most one place off.
  have hupper : q < (2 : ℚ) ^ ((a : ℤ) - b + 1) := by
    rw [zpow_add_one₀ two_ne_zero]
    nlinarith
  have hlower : (2 : ℚ) ^ ((a : ℤ) - b - 1) ≤ q := by
    rw [zpow_sub_one₀ two_ne_zero]
    nlinarith
  unfold binaryLog
  dsimp only
  split_ifs with hcase
  · exact ⟨hcase, hupper⟩
  · rw [Int.sub_add_cancel]
    exact ⟨hlower, not_le.1 hcase⟩

/-- Rounding a number that is not tiny to 53 bits changes it by a part of `2 ^ 53` at most, and
takes no greater exponent than it needs. -/
theorem nearest_spec {q : ℚ} (h : 0 < q) (hlow : leastExponent + 52 ≤ binaryLog q) :
    |(nearest q).value - q| ≤ q / 2 ^ 53 ∧ (nearest q).exponent ≤ binaryLog q - 51 := by
  have hexponent : max (binaryLog q - 52) leastExponent = binaryLog q - 52 :=
    max_eq_left (by omega)
  set e := binaryLog q - 52 with he
  set m := (Rounding.halfEven (q / (2 : ℚ) ^ e)).natAbs with hm
  have hpos : (0 : ℚ) < (2 : ℚ) ^ e := zpow_pos two_pos e
  have hcast : (m : ℚ) = Rounding.halfEven (q / (2 : ℚ) ^ e) := by
    rw [hm, ← Int.cast_natCast,
      Int.natAbs_of_nonneg (Rounding.halfEven_nonneg (div_nonneg h.le hpos.le))]
  have hvalue : (nearest q).value = (m : ℚ) * (2 : ℚ) ^ e ∧ (nearest q).exponent ≤ e + 1 := by
    unfold nearest
    dsimp only
    rw [hexponent, ← hm]
    split_ifs with hfull
    · refine ⟨?_, le_refl _⟩
      rw [value, hfull, zpow_add_one₀ two_ne_zero]
      push_cast
      ring
    · exact ⟨rfl, (lt_add_one e).le⟩
  have herror : |(m : ℚ) * (2 : ℚ) ^ e - q| ≤ (2 : ℚ) ^ e / 2 := by
    have hhalf := Rounding.abs_halfEven_sub_le (q / (2 : ℚ) ^ e)
    rw [← hcast] at hhalf
    calc |(m : ℚ) * (2 : ℚ) ^ e - q|
        = |(m : ℚ) - q / (2 : ℚ) ^ e| * (2 : ℚ) ^ e := by
          rw [← abs_of_pos hpos, ← abs_mul, abs_of_pos hpos, sub_mul,
            div_mul_cancel₀ _ hpos.ne']
      _ ≤ 1 / 2 * (2 : ℚ) ^ e := mul_le_mul_of_nonneg_right hhalf hpos.le
      _ = (2 : ℚ) ^ e / 2 := by ring
  have hunit : (2 : ℚ) ^ e / 2 ≤ q / 2 ^ 53 := by
    have hscale : (2 : ℚ) ^ e * 2 ^ 52 = (2 : ℚ) ^ binaryLog q := by
      rw [← zpow_natCast, ← zpow_add₀ two_ne_zero, he]
      norm_num
    have hbound := (binaryLog_spec h).1
    rw [← hscale] at hbound
    linarith
  exact ⟨by rw [hvalue.1]; exact herror.trans hunit, by omega⟩

end Scaled

namespace Binary64

/-- A number that is neither tiny nor huge is rounded to a finite one, and changed by a part of
`2 ^ 53` at most. -/
theorem exists_ofRat_eq_finite {q : ℚ} (hlow : (2 : ℚ) ^ (-1022 : ℤ) ≤ q)
    (hhigh : q < (2 : ℚ) ^ (1023 : ℤ)) :
    ∃ x, ofRat q = .finite false x ∧ |x - q| ≤ q / 2 ^ 53 := by
  have hpos : 0 < q := (zpow_pos two_pos _).trans_le hlow
  rcases Scaled.binaryLog_spec hpos with ⟨hlog, hlog'⟩
  have hleast : (-1022 : ℤ) < Scaled.binaryLog q + 1 :=
    (zpow_lt_zpow_iff_right₀ one_lt_two).1 (hlow.trans_lt hlog')
  have hgreatest : Scaled.binaryLog q < 1023 :=
    (zpow_lt_zpow_iff_right₀ one_lt_two).1 (hlog.trans_lt hhigh)
  rcases Scaled.nearest_spec hpos (by simp only [Scaled.leastExponent]; omega) with
    ⟨herror, hexponent⟩
  refine ⟨(Scaled.nearest q).value, ?_, herror⟩
  unfold ofRat round
  rw [if_neg (not_lt.2 hpos.le), if_neg hpos.ne', if_neg]
  simp only [Scaled.greatestExponent]
  omega

end Binary64
end CrossAudit
