/-!
# Totals
-/

namespace CrossAudit

/-- The sum of natural numbers. -/
def total : List Nat → Nat
  | [] => 0
  | n :: rest => n + total rest

/-- The sum of integers. -/
def balance : List Int → Int
  | [] => 0
  | n :: rest => n + balance rest

@[simp]
theorem total_append (ms ns : List Nat) : total (ms ++ ns) = total ms + total ns := by
  induction ms with
  | nil => simp [total]
  | cons m ms ih => simp [total, ih, Nat.add_assoc]

theorem le_total_of_mem {n : Nat} {ns : List Nat} (h : n ∈ ns) : n ≤ total ns := by
  induction ns with
  | nil => cases h
  | cons m ns ih =>
      rw [total]
      rcases List.mem_cons.1 h with rfl | h
      · exact Nat.le_add_right _ _
      · exact Nat.le_trans (ih h) (Nat.le_add_left _ _)

theorem total_map_length {α β : Type} (f : α → List β) (xs : List α) :
    total (xs.map fun x => (f x).length) = (xs.flatMap f).length := by
  induction xs with
  | nil => rfl
  | cons x xs ih => rw [List.map_cons, total, ih, List.flatMap_cons, List.length_append]

@[simp]
theorem balance_append (ms ns : List Int) : balance (ms ++ ns) = balance ms + balance ns := by
  induction ms with
  | nil => simp [balance]
  | cons m ms ih => simp [balance, ih, Int.add_assoc]

end CrossAudit
