import Mathlib.Data.List.Induction
import Mathlib.Data.List.Nodup
import Mathlib.Tactic.Common

/-!
# Keeping the first of each key

A list is gone through once, and an item is kept unless an earlier one has its key.

Main results:

- Theorem `firstBy_concat`: what a last item changes.
- Theorem `mem_firstBy_iff`: an item is kept where its key comes first.
- Theorem `nodup_keys_firstBy`: no key is kept twice.
- Theorem `filter_firstBy`: keeping first items commutes with choosing items by their keys.
-/

namespace CrossAudit

variable {α κ : Type} [DecidableEq κ] {key : α → κ} {xs more : List α} {x : α} {k : κ}

theorem nodup_eraseDups (ks : List κ) : ks.eraseDups.Nodup := by
  induction ks using List.reverseRecOn with
  | nil => exact List.nodup_nil
  | append_singleton ks k ih =>
      rw [List.eraseDups_append]
      by_cases hk : k ∈ ks
      · simpa [List.removeAll, hk] using ih
      · have hconcat : (ks.eraseDups.concat k).Nodup := ih.concat (by rwa [List.mem_eraseDups])
        simpa [List.removeAll, hk, List.eraseDups_cons] using hconcat

/-- The items whose key no earlier item has, in order. -/
def firstBy (key : α → κ) (xs : List α) : List α :=
  xs.foldl (fun kept x => if key x ∈ kept.map key then kept else kept ++ [x]) []

/-- Every key is kept. -/
theorem mem_keys_firstBy : k ∈ (firstBy key xs).map key ↔ k ∈ xs.map key := by
  induction xs using List.reverseRecOn with
  | nil => rfl
  | append_singleton xs x ih =>
      rw [firstBy, List.foldl_append, List.foldl_cons, List.foldl_nil, ← firstBy, List.map_append,
        List.mem_append, ← ih, List.map_singleton, List.mem_singleton]
      split
      · rename_i hthere
        constructor
        · exact Or.inl
        · rintro (hk | rfl)
          · exact hk
          · exact hthere
      · rw [List.map_append, List.mem_append, List.map_singleton, List.mem_singleton]

/-- A last item is kept if its key is new. -/
theorem firstBy_concat (key : α → κ) (xs : List α) (x : α) :
    firstBy key (xs ++ [x]) =
      if key x ∈ xs.map key then firstBy key xs else firstBy key xs ++ [x] := by
  rw [firstBy, List.foldl_append, List.foldl_cons, List.foldl_nil, ← firstBy]
  simp only [mem_keys_firstBy]

/-- Items whose keys are there already add nothing. -/
theorem firstBy_append_of_repeated (h : ∀ y ∈ more, key y ∈ xs.map key) :
    firstBy key (xs ++ more) = firstBy key xs := by
  induction more using List.reverseRecOn with
  | nil => rw [List.append_nil]
  | append_singleton more y ih =>
      have hy : key y ∈ (xs ++ more).map key := by
        rw [List.map_append]
        exact List.mem_append_left _ (h y (by simp))
      rw [← List.append_assoc, firstBy_concat, if_pos hy]
      exact ih fun y' hy' => h y' (List.mem_append_left _ hy')

omit [DecidableEq κ] in
/-- What stands before an item of a longer list: the item is the last one, or the last one stands
behind it. -/
theorem exists_before_concat_iff {p : α → Prop} {z : α} :
    (∃ before after, xs ++ [z] = before ++ x :: after ∧ ∀ y ∈ before, p y) ↔
      (∃ before after, xs = before ++ x :: after ∧ ∀ y ∈ before, p y) ∨
        z = x ∧ ∀ y ∈ xs, p y := by
  constructor
  · rintro ⟨before, after, heq, hbefore⟩
    rcases List.eq_nil_or_concat after with rfl | ⟨after, last, rfl⟩
    · obtain ⟨rfl, hlast⟩ := List.append_inj' heq rfl
      exact .inr ⟨(List.cons.inj hlast).1, hbefore⟩
    · rw [List.concat_eq_append, ← List.cons_append, ← List.append_assoc] at heq
      exact .inl ⟨before, after, (List.append_inj' heq rfl).1, hbefore⟩
  · rintro (⟨before, after, rfl, hbefore⟩ | ⟨rfl, hbefore⟩)
    · exact ⟨before, after ++ [z], by simp, hbefore⟩
    · exact ⟨xs, [], rfl, hbefore⟩

/-- An item is kept where its key comes first. -/
theorem mem_firstBy_iff :
    x ∈ firstBy key xs ↔
      ∃ before after, xs = before ++ x :: after ∧ ∀ y ∈ before, key y ≠ key x := by
  induction xs using List.reverseRecOn with
  | nil => simp [firstBy]
  | append_singleton xs z ih =>
      have hnew : (∀ y ∈ xs, key y ≠ key x) ↔ key x ∉ xs.map key := by
        rw [List.mem_map, not_exists]
        exact forall_congr' fun y => not_and.symm
      rw [exists_before_concat_iff, ← ih, hnew, firstBy_concat]
      split
      · rename_i hthere
        refine (or_iff_left ?_).symm
        rintro ⟨rfl, hnot⟩
        exact hnot hthere
      · rename_i hnot
        rw [List.mem_append, List.mem_singleton]
        refine or_congr_right ⟨fun hx => ?_, fun hx => hx.1.symm⟩
        subst hx
        exact ⟨rfl, hnot⟩

theorem mem_of_mem_firstBy (h : x ∈ firstBy key xs) : x ∈ xs := by
  obtain ⟨before, after, rfl, -⟩ := mem_firstBy_iff.1 h
  exact List.mem_append_right _ List.mem_cons_self

/-- No key is kept twice. -/
theorem nodup_keys_firstBy (key : α → κ) (xs : List α) : ((firstBy key xs).map key).Nodup := by
  induction xs using List.reverseRecOn with
  | nil => exact List.nodup_nil
  | append_singleton xs x ih =>
      rw [firstBy_concat]
      split
      · exact ih
      · rename_i hnew
        rw [List.map_append, List.map_singleton, ← List.concat_eq_append]
        exact ih.concat fun hmem => hnew (mem_keys_firstBy.1 hmem)

/-- Keeping the first of each key commutes with choosing items by their keys. -/
theorem filter_firstBy {test : α → Bool} (htest : ∀ {x y}, key x = key y → test x = test y)
    (xs : List α) : (firstBy key xs).filter test = firstBy key (xs.filter test) := by
  induction xs using List.reverseRecOn with
  | nil => rfl
  | append_singleton xs x ih =>
      rw [firstBy_concat, List.filter_append, List.filter_singleton]
      by_cases hx : test x = true
      · -- An item with the key of a chosen one is chosen too.
        have hkeys : key x ∈ (xs.filter test).map key ↔ key x ∈ xs.map key := by
          simp only [List.mem_map, List.mem_filter]
          constructor
          · rintro ⟨y, ⟨hy, _⟩, hkey⟩
            exact ⟨y, hy, hkey⟩
          · rintro ⟨y, hy, hkey⟩
            exact ⟨y, ⟨hy, (htest hkey).trans hx⟩, hkey⟩
        rw [hx, cond_true, firstBy_concat, ← ih]
        simp only [hkeys]
        split
        · rfl
        · rw [List.filter_append, List.filter_singleton, hx, cond_true]
      · rw [Bool.not_eq_true] at hx
        rw [hx, cond_false, List.append_nil, ← ih]
        split
        · rfl
        · rw [List.filter_append, List.filter_singleton, hx, cond_false, List.append_nil]

end CrossAudit
