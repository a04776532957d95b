import CrossAudit.Number.Binary64
import Mathlib.Algebra.Order.Ring.Rat
import Mathlib.Tactic.Ring

/-!
# Sums of binary numbers that are not rounded

A sum that is not rounded does not depend on the order of its terms, infinite and undefined ones
and signed zeros included.  It is rounding alone that makes a sum of binary numbers depend on it.

Main results:

- Theorem `exactSum_ofValue`: finite numbers are added as rational ones, and a sum is a negative
  zero only if all its terms are.
- Theorem `exactSum_right_comm`: two numbers may be added to a sum in either order.
-/

namespace CrossAudit
namespace Binary64

/-- A number that is not rounded keeps its value, and is a negative zero only if it is told so. -/
theorem exists_ofValue_eq_finite (negative : Bool) (q : Rat) :
    ∃ s a, ofValue negative q = .finite s a ∧ signed s a = q ∧
      (s && a == 0) = (negative && q == 0) := by
  unfold ofValue
  by_cases hzero : q = 0
  · rw [if_pos hzero]
    exact ⟨negative, 0, rfl, by simp [signed, hzero], by simp [hzero]⟩
  · rw [if_neg hzero]
    by_cases hneg : q < 0
    · rw [if_pos hneg]
      refine ⟨true, -q, rfl, by simp [signed], ?_⟩
      rw [beq_false_of_ne hzero, beq_false_of_ne (neg_ne_zero.2 hzero), Bool.and_false,
        Bool.and_false]
    · rw [if_neg hneg]
      refine ⟨false, q, rfl, rfl, ?_⟩
      rw [beq_false_of_ne hzero, Bool.and_false, Bool.and_false]

/-- Adding to a finite sum adds values, and keeps a negative zero only with another one. -/
theorem exactSum_ofValue (negative t : Bool) (q b : Rat) :
    exactSum (ofValue negative q) (.finite t b) =
      ofValue ((negative && q == 0) && (t && b == 0)) (q + signed t b) := by
  rcases exists_ofValue_eq_finite negative q with ⟨s, a, heq, hvalue, hzero⟩
  rw [heq, exactSum, hvalue, hzero]

theorem exactSum_finite_right_comm (s t u : Bool) (a b c : Rat) :
    exactSum (exactSum (.finite s a) (.finite t b)) (.finite u c) =
      exactSum (exactSum (.finite s a) (.finite u c)) (.finite t b) := by
  have hvalue : signed s a + signed t b + signed u c =
      signed s a + signed u c + signed t b := by
    ring
  -- All three have to be negative zeros for their sum to be one.
  have hsign : ∀ (t u : Bool) (b c : Rat),
      ((((s && a == 0) && (t && b == 0)) && signed s a + signed t b == 0) && (u && c == 0)) =
        (((s && a == 0) && (t && b == 0)) && (u && c == 0)) := by
    intro t u b c
    by_cases ha : a = 0
    · by_cases hb : b = 0
      · simp [ha, hb, signed]
      · simp [beq_false_of_ne hb]
    · simp [beq_false_of_ne ha]
  rw [exactSum, exactSum_ofValue, exactSum, exactSum_ofValue, hsign, hsign, hvalue,
    Bool.and_right_comm]

@[simp]
theorem exactSum_undefined (x : Binary64) : exactSum x .undefined = .undefined := by
  cases x <;> rfl

@[simp]
theorem undefined_exactSum (x : Binary64) : exactSum .undefined x = .undefined := by
  cases x <;> rfl

theorem exists_exactSum_eq_finite (s t : Bool) (a b : Rat) :
    ∃ u c, exactSum (.finite s a) (.finite t b) = .finite u c := by
  rcases exists_ofValue_eq_finite ((s && a == 0) && (t && b == 0)) (signed s a + signed t b) with
    ⟨u, c, heq, _⟩
  exact ⟨u, c, heq⟩

/-- An infinite number and another one may be added to a sum in either order. -/
theorem exactSum_infinite_right_comm (x y : Binary64) (t : Bool) :
    exactSum (exactSum x (.infinite t)) y = exactSum (exactSum x y) (.infinite t) := by
  cases y with
  | undefined => simp
  | infinite u =>
      cases x with
      | undefined => rfl
      | infinite s => cases s <;> cases t <;> cases u <;> rfl
      | finite s a => cases t <;> cases u <;> rfl
  | finite u c =>
      cases x with
      | undefined => rfl
      | infinite s => cases s <;> cases t <;> rfl
      | finite s a =>
          rcases exists_exactSum_eq_finite s u a c with ⟨v, d, heq⟩
          rw [heq]
          rfl

/-- The order in which numbers are added to a sum does not matter. -/
theorem exactSum_right_comm (x y z : Binary64) :
    exactSum (exactSum x y) z = exactSum (exactSum x z) y := by
  cases y with
  | undefined => simp
  | infinite t => exact exactSum_infinite_right_comm x z t
  | finite t b =>
      cases z with
      | undefined => simp
      | infinite u => exact (exactSum_infinite_right_comm x (.finite t b) u).symm
      | finite u c =>
          cases x with
          | undefined => rfl
          | infinite s => rfl
          | finite s a => exact exactSum_finite_right_comm s t u a b c

end Binary64
end CrossAudit
