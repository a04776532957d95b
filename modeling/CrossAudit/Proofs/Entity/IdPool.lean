import CrossAudit.Entity.Id
import Mathlib.Data.List.Nodup
import Mathlib.Data.List.Perm.Subperm
import Mathlib.Tactic.Common

/-!
# Names that a pool hands out

Numbered names of one base are pairwise distinct, so among one more of them than there are names in
use one is free, and the search for it never runs out of attempts.

Main results:

- Theorem `leastFree_next`: a pool hands out the base itself if it is free, and otherwise the base
  with the least number from two that makes it free.
- Theorem `next_not_mem`: a name that is handed out was not in use.
- Theorem `next_congr`: which name is handed out depends on the base and its numbered names only.
-/

namespace CrossAudit
namespace IdPool

variable {used used' : List String} {base a b : String}

/-! ## Numbered names -/

/-- Different numbers make different names. -/
theorem numbered_injective (base : String) : Function.Injective (numbered base) := by
  intro m n h
  have hdigits : Nat.toDigits 10 m = Nat.toDigits 10 n := by
    simpa [numbered, Nat.toString_eq_ofList_toDigits] using congrArg String.toList h
  calc
    m = Nat.ofDigitChars 10 (Nat.toDigits 10 m) 0 := by simp
    _ = Nat.ofDigitChars 10 (Nat.toDigits 10 n) 0 := by rw [hdigits]
    _ = n := by simp

/-- Not all of more numbered names than there are names in use can be in use. -/
theorem le_length_of_numbered_mem {n k : Nat}
    (h : ∀ m, k ≤ m → m < k + n → numbered base m ∈ used) : n ≤ used.length := by
  have hnodup : ((List.range' k n).map (numbered base)).Nodup :=
    List.Nodup.map (numbered_injective base) (by simp [List.nodup_range'])
  have hsub : (List.range' k n).map (numbered base) ⊆ used := by
    intro name hname
    rcases List.mem_map.1 hname with ⟨m, hm, rfl⟩
    rw [List.mem_range'_1] at hm
    exact h m hm.1 hm.2
  simpa using (hnodup.subperm hsub).length_le

/-! ## The search for a free name -/

/-- The search stops at a number before which every name is in use, and either the name with that
number is free or all attempts are used up. -/
theorem exists_firstFree_eq (used : List String) (base : String) (fuel k : Nat) :
    ∃ n, k ≤ n ∧ firstFree used base fuel k = numbered base n ∧
      (∀ m, k ≤ m → m < n → numbered base m ∈ used) ∧
      (numbered base n ∉ used ∨ n = k + fuel) := by
  induction fuel generalizing k with
  | zero => exact ⟨k, Nat.le_refl _, rfl, by omega, Or.inr rfl⟩
  | succ fuel ih =>
      by_cases hk : numbered base k ∈ used
      · rcases ih (k + 1) with ⟨n, hle, heq, hbefore, hend⟩
        refine ⟨n, by omega, ?_, ?_, ?_⟩
        · simpa [firstFree, hk] using heq
        · intro m hm hlt
          by_cases hmk : m = k
          · rwa [hmk]
          · exact hbefore m (by omega) hlt
        · exact hend.imp id fun h => by omega
      · exact ⟨k, Nat.le_refl _, by simp [firstFree, hk], by omega, Or.inl hk⟩

/-- A name is the least free one of a base: the base itself if it is free, and otherwise the base
with the least number from two that makes it free. -/
inductive LeastFree (used : List String) (base : String) : String → Prop where
  | plain (free : base ∉ used) : LeastFree used base base
  | numbered (n : Nat) (taken : base ∈ used) (two_le : 2 ≤ n) (free : numbered base n ∉ used)
      (least : ∀ m, 2 ≤ m → m < n → IdPool.numbered base m ∈ used) :
      LeastFree used base (IdPool.numbered base n)

/-- A pool hands out the least free name of a base. -/
theorem leastFree_next (pool : IdPool) (base : String) :
    LeastFree pool.used base (pool.next base) := by
  by_cases hbase : base ∈ pool.used
  · rcases exists_firstFree_eq pool.used base pool.used.length 2 with ⟨n, hle, heq, hbefore, hend⟩
    have hnext : pool.next base = numbered base n := by simpa [next, hbase] using heq
    have hfree : numbered base n ∉ pool.used := by
      rcases hend with hfree | hn
      · exact hfree
      · -- All attempts are used up, so with one more name in use there would be too many.
        intro hmem
        have hall : ∀ m, 2 ≤ m → m < 2 + (pool.used.length + 1) →
            numbered base m ∈ pool.used := by
          intro m hm hlt
          by_cases hmn : m = n
          · rwa [hmn]
          · exact hbefore m hm (by omega)
        exact absurd (le_length_of_numbered_mem hall) (by omega)
    rw [hnext]
    exact .numbered n hbase hle hfree hbefore
  · have hnext : pool.next base = base := by simp [next, hbase]
    rw [hnext]
    exact .plain hbase

theorem LeastFree.not_mem (h : LeastFree used base a) : a ∉ used := by
  cases h with
  | plain free => exact free
  | numbered n _ _ free _ => exact free

/-- A name that is handed out was not in use. -/
theorem next_not_mem (pool : IdPool) (base : String) : pool.next base ∉ pool.used :=
  (leastFree_next pool base).not_mem

/-- There is one least free name, and it depends on the base and its numbered names only. -/
theorem LeastFree.unique (h : LeastFree used base a) (h' : LeastFree used' base b)
    (hbase : base ∈ used ↔ base ∈ used')
    (hnumbered : ∀ n, IdPool.numbered base n ∈ used ↔ IdPool.numbered base n ∈ used') : a = b := by
  cases h with
  | plain free =>
      cases h' with
      | plain _ => rfl
      | numbered _ taken' _ _ _ => exact absurd (hbase.2 taken') free
  | numbered n taken two_le free least =>
      cases h' with
      | plain free' => exact absurd (hbase.1 taken) free'
      | numbered n' _ two_le' free' least' =>
          rcases Nat.lt_trichotomy n n' with hlt | heq | hlt
          · exact absurd ((hnumbered n).2 (least' n two_le hlt)) free
          · rw [heq]
          · exact absurd ((hnumbered n').1 (least n' two_le' hlt)) free'

/-- Which name is handed out depends on the base and its numbered names only. -/
theorem next_congr {p q : IdPool} (hbase : base ∈ p.used ↔ base ∈ q.used)
    (hnumbered : ∀ n, numbered base n ∈ p.used ↔ numbered base n ∈ q.used) :
    p.next base = q.next base :=
  (leastFree_next p base).unique (leastFree_next q base) hbase hnumbered

/-- A name that is handed out is the base or one of its numbered names. -/
theorem next_eq_or (pool : IdPool) (base : String) :
    pool.next base = base ∨ ∃ n, pool.next base = numbered base n := by
  have h := leastFree_next pool base
  generalize pool.next base = name at h
  cases h with
  | plain _ => exact Or.inl rfl
  | numbered n _ _ _ _ => exact Or.inr ⟨n, rfl⟩

end IdPool
end CrossAudit
