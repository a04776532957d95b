import CrossAudit.Assoc
import CrossAudit.Total
import Mathlib.Algebra.BigOperators.Group.List.Basic
import Mathlib.Data.List.Induction
import Mathlib.Data.List.Nodup
import Mathlib.Tactic.Abel

/-!
# Association lists as tables

What is found in a table after one of its keys is changed, and that a table never gets two entries
for one key.

Main results:

- Theorem `lookup_update`: changing a key changes what is found there and nothing else.
- Theorem `nodup_keys_update`: changing a key keeps the keys of a table distinct.
- Theorem `lookup_eq_some_iff_mem`: the entries of a table with distinct keys are what is found
  in it.
- Theorem `filter_flatMap_of_marked`: what the entries of a table yield is told apart by their keys.
- Theorem `fill_eq`: a table that is filled item by item has the keys in the order in which
  they came, each with what its own items made of it.
- Theorem `lookup_latest`: in a table that items are put into under their keys, what is found is
  what came last.
- Theorem `group_eq`: groups stand in the order in which their keys came first, and hold the items
  of their key in their order.
- Theorem `perm_flatMap_of_owner`: owners that hold what is theirs hold every owned item once.
- Theorem `sum_update`: a change that adds to one value's figure adds as much to the sum.
-/

namespace CrossAudit
namespace Assoc

variable {α β : Type} [BEq α] [LawfulBEq α]

/-- Changing a key changes what is found there and nothing else. -/
theorem lookup_update (key k : α) (fallback : β) (f : β → β) (table : List (α × β)) :
    (update key fallback f table).lookup k =
      if k == key then some (f ((table.lookup key).getD fallback)) else table.lookup k := by
  induction table with
  | nil =>
      by_cases hk : k = key
      · simp [update, hk]
      · have hk' : (k == key) = false := beq_false_of_ne hk
        simp [update, List.lookup_cons, hk']
  | cons p rest ih =>
      rcases p with ⟨k', v⟩
      by_cases hkey : k' = key
      · subst hkey
        by_cases hk : k = k'
        · simp [update, hk]
        · have hk' : (k == k') = false := beq_false_of_ne hk
          simp [update, List.lookup_cons, hk']
      · have hne : (key == k') = false := beq_false_of_ne (Ne.symm hkey)
        by_cases hk : k = k'
        · subst hk
          simp [update, hkey]
        · have hk' : (k == k') = false := beq_false_of_ne hk
          simp [update, hkey, List.lookup_cons, hne, hk', ih]

/-- The keys after a change are those before and the changed one. -/
theorem mem_keys_update (key k : α) (fallback : β) (f : β → β) (table : List (α × β)) :
    k ∈ (update key fallback f table).map (·.1) ↔ k = key ∨ k ∈ table.map (·.1) := by
  induction table with
  | nil => simp [update]
  | cons p rest ih =>
      by_cases hkey : p.1 = key
      · simp [update, hkey]
      · simp only [update, beq_iff_eq, hkey, if_false, List.map_cons, List.mem_cons, ih]
        exact or_left_comm

/-- Changing a key keeps the keys of a table distinct. -/
theorem nodup_keys_update (key : α) (fallback : β) (f : β → β) {table : List (α × β)}
    (h : (table.map (·.1)).Nodup) : ((update key fallback f table).map (·.1)).Nodup := by
  induction table with
  | nil => simp [update]
  | cons p rest ih =>
      rw [List.map_cons, List.nodup_cons] at h
      by_cases hkey : p.1 = key
      · simpa [update, hkey] using h
      · simp only [update, beq_iff_eq, hkey, if_false, List.map_cons, List.nodup_cons,
          mem_keys_update, false_or]
        exact ⟨h.1, ih h.2⟩

/-- The entries of a table with distinct keys are what is found in it. -/
theorem lookup_eq_some_iff_mem {table : List (α × β)} (h : (table.map (·.1)).Nodup) (k : α)
    (v : β) : table.lookup k = some v ↔ (k, v) ∈ table := by
  induction table with
  | nil => simp
  | cons p rest ih =>
      rcases p with ⟨k', v'⟩
      rw [List.map_cons, List.nodup_cons] at h
      by_cases hk : k = k'
      · subst hk
        have hrest : (k, v) ∉ rest := fun hmem => h.1 (List.mem_map.2 ⟨(k, v), hmem, rfl⟩)
        simp [hrest, eq_comm]
      · have hk' : (k == k') = false := beq_false_of_ne hk
        simp [List.lookup_cons, hk', hk, ih h.2]

/-- What a table gives for a key, or what counts for a key that it lacks. -/
theorem getD_lookup_cases (table : List (α × β)) (k : α) (fallback : β) :
    (table.lookup k).getD fallback = fallback ∨
      (table.lookup k).getD fallback ∈ table.map (·.2) := by
  cases hlookup : table.lookup k with
  | none => exact Or.inl rfl
  | some v =>
      obtain ⟨before, after, hsplit, -⟩ := List.lookup_eq_some_iff.1 hlookup
      refine Or.inr ?_
      rw [hsplit]
      simp

/-- Choosing entries by their keys chooses what is found. -/
theorem lookup_filter (test : α → Bool) (table : List (α × β)) (k : α) :
    (table.filter fun p => test p.1).lookup k = if test k then table.lookup k else none := by
  induction table with
  | nil => simp
  | cons p rest ih =>
      rcases p with ⟨k', v⟩
      by_cases hk : k = k'
      · subst hk
        by_cases htest : test k = true <;> simp [htest, ih]
      · have hk' : (k == k') = false := beq_false_of_ne hk
        by_cases htest : test k' = true <;> simp [htest, ih, List.lookup_cons, hk']

/-- Of what the entries of a table with distinct keys yield, marked with their keys, the items with
one mark are those of one entry. -/
theorem filter_flatMap_of_marked {γ : Type} {table : List (α × β)} {yielded : α × β → List γ}
    {mark : γ → α} (hkeys : (table.map (·.1)).Nodup)
    (hmark : ∀ p, ∀ x ∈ yielded p, mark x = p.1) (k : α) :
    (table.flatMap yielded).filter (fun x => mark x == k) =
      (table.lookup k).elim [] fun v => yielded (k, v) := by
  induction table with
  | nil => rfl
  | cons p rest ih =>
      rcases p with ⟨k', v⟩
      rw [List.map_cons, List.nodup_cons] at hkeys
      rw [List.flatMap_cons, List.filter_append, ih hkeys.2]
      by_cases hk : k = k'
      · subst hk
        have hown : (yielded (k, v)).filter (fun x => mark x == k) = yielded (k, v) := by
          rw [List.filter_eq_self]
          exact fun x hx => beq_iff_eq.2 (hmark (k, v) x hx)
        have hrest : rest.lookup k = none := by
          rw [Option.eq_none_iff_forall_ne_some]
          intro w hw
          exact hkeys.1 (List.mem_map.2 ⟨(k, w), (lookup_eq_some_iff_mem hkeys.2 k w).1 hw, rfl⟩)
        simp [hown, hrest]
      · have hk' : (k == k') = false := beq_false_of_ne hk
        have hother : (yielded (k', v)).filter (fun x => mark x == k) = [] := by
          rw [List.filter_eq_nil_iff]
          intro x hx hmarked
          exact hk ((beq_iff_eq.1 hmarked).symm.trans (hmark (k', v) x hx))
        simp [hother, List.lookup_cons, hk']

/-! ## Tables that are filled item by item -/

/-- A change leaves the keys in place, and puts a new one behind them. -/
theorem keys_update (key : α) (fallback : β) (f : β → β) (table : List (α × β)) :
    (update key fallback f table).map (·.1) =
      if key ∈ table.map (·.1) then table.map (·.1) else table.map (·.1) ++ [key] := by
  induction table with
  | nil => simp [update]
  | cons p rest ih =>
      by_cases hkey : p.1 = key
      · simp [update, hkey]
      · have hne : ¬ key = p.1 := fun h => hkey h.symm
        simp only [update, beq_iff_eq, hkey, if_false, List.map_cons, ih, List.mem_cons, hne,
          false_or]
        split <;> rfl

variable {γ : Type} (key : γ → α) (fallback : β) (f : γ → β → β)

/-- A table that items are put into one after the other. -/
def fill (table : List (α × β)) (xs : List γ) : List (α × β) :=
  xs.foldl (fun table x => update (key x) fallback (f x) table) table

/-- What the items of a key make of its value. -/
def valueOf (xs : List γ) (k : α) (start : β) : β :=
  (xs.filter fun x => key x == k).foldl (fun v x => f x v) start

/-- What is found under a key is what its own items made of it. -/
theorem lookup_fill (xs : List γ) (table : List (α × β)) (k : α) :
    (fill key fallback f table xs).lookup k =
      if k ∈ xs.map key then some (valueOf key f xs k ((table.lookup k).getD fallback))
      else table.lookup k := by
  induction xs generalizing table with
  | nil => simp [fill]
  | cons x xs ih =>
      have hstep : fill key fallback f table (x :: xs) =
          fill key fallback f (update (key x) fallback (f x) table) xs := rfl
      rw [hstep, ih, lookup_update]
      by_cases hx : key x = k
      · subst hx
        by_cases hmem : key x ∈ xs.map key
        · simp [hmem, valueOf]
        · have hnone : xs.filter (fun y => key y == key x) = [] := by
            rw [List.filter_eq_nil_iff]
            intro y hy heq
            exact hmem (List.mem_map.2 ⟨y, hy, by simpa using heq⟩)
          simp [hmem, valueOf, hnone]
      · have hne : ¬ k = key x := fun h => hx h.symm
        have hmem : k ∈ (x :: xs).map key ↔ k ∈ xs.map key := by
          rw [List.map_cons, List.mem_cons]
          exact or_iff_right hne
        rw [if_congr hmem rfl rfl]
        simp [hne, hx, valueOf]

/-- Filling a table keeps its keys distinct. -/
theorem nodup_keys_fill (table : List (α × β)) (xs : List γ) (h : (table.map (·.1)).Nodup) :
    ((fill key fallback f table xs).map (·.1)).Nodup := by
  induction xs generalizing table with
  | nil => exact h
  | cons x xs ih => exact ih _ (nodup_keys_update (key x) fallback (f x) h)

/-- Keys stand in the order in which they came first. -/
theorem keys_fill (xs : List γ) :
    (fill key fallback f [] xs).map (·.1) = (xs.map key).eraseDups := by
  -- The last item either has a key that is there or adds one at the end.
  induction xs using List.reverseRecOn with
  | nil => rfl
  | append_singleton xs x ih =>
      have hstep : fill key fallback f [] (xs ++ [x]) =
          update (key x) fallback (f x) (fill key fallback f [] xs) := by
        simp [fill]
      rw [hstep, keys_update, ih, List.map_append, List.eraseDups_append]
      by_cases hmem : key x ∈ xs.map key
      · simp [hmem, List.mem_eraseDups, List.removeAll]
      · simp [hmem, List.mem_eraseDups, List.removeAll, List.eraseDups_cons]

/-- A table with distinct keys is told by its keys and by what is found under them. -/
theorem eq_map_lookup {table : List (α × β)} (h : (table.map (·.1)).Nodup) (fallback : β) :
    table = (table.map (·.1)).map fun k => (k, (table.lookup k).getD fallback) := by
  rw [List.map_map]
  have hsame : table.map id = table.map fun p => (p.1, (table.lookup p.1).getD fallback) := by
    apply List.map_congr_left
    intro p hp
    rw [(lookup_eq_some_iff_mem h p.1 p.2).2 hp]
    rfl
  rwa [List.map_id] at hsame

/-- A table that is filled item by item has the keys in the order in which they came, each with what
its own items made of it. -/
theorem fill_eq (xs : List γ) :
    fill key fallback f [] xs =
      (xs.map key).eraseDups.map fun k => (k, valueOf key f xs k fallback) := by
  have hnodup : ((fill key fallback f [] xs).map (·.1)).Nodup :=
    nodup_keys_fill key fallback f [] xs List.nodup_nil
  rw [eq_map_lookup hnodup fallback, keys_fill]
  apply List.map_congr_left
  intro k hk
  rw [lookup_fill, if_pos (List.mem_eraseDups.1 hk)]
  rfl

/-! ## Sums over a table -/

omit [LawfulBEq α] in
/-- A change that adds to one value's figure adds as much to the sum. -/
theorem sum_update {M : Type} [AddCommMonoid M] (figure : β → M) {added : M} {fallback : β}
    {f : β → β} (hf : ∀ v, figure (f v) = figure v + added) (hfallback : figure fallback = 0)
    (key : α) (table : List (α × β)) :
    ((update key fallback f table).map fun p => figure p.2).sum =
      (table.map fun p => figure p.2).sum + added := by
  induction table with
  | nil => simp [update, hf, hfallback]
  | cons p rest ih =>
      simp only [update]
      split
      · simp only [List.map_cons, List.sum_cons, hf]
        abel
      · simp only [List.map_cons, List.sum_cons, ih]
        abel

omit [LawfulBEq α] in
/-- To set a value is to update it without regard to the old one. -/
theorem set_eq_update (key : α) (value : β) (table : List (α × β)) :
    set key value table = update key value (fun _ => value) table := by
  induction table with
  | nil => rfl
  | cons p rest ih => rw [set, update, ih]

omit [LawfulBEq α] in
/-- A change that does not look at the value before does not need one. -/
theorem update_const (key : α) (fallback fallback' value : β) (table : List (α × β)) :
    update key fallback (fun _ => value) table = update key fallback' (fun _ => value) table := by
  induction table with
  | nil => rfl
  | cons p rest ih => rw [update, update, ih]

/-- Setting a key changes what is found there and nothing else. -/
theorem lookup_set (key k : α) (value : β) (table : List (α × β)) :
    (set key value table).lookup k = if k == key then some value else table.lookup k := by
  rw [set_eq_update, lookup_update]

/-! ## Tables of what came last -/

section

variable {γ : Type} (key : γ → α)

/-- What came last under a key. -/
def lastUnder (xs : List γ) (k : α) : Option γ :=
  (xs.filter fun x => key x == k).getLast?

/-- A table that items are put into under their keys. -/
def latest (table : List (α × γ)) (xs : List γ) : List (α × γ) :=
  xs.foldl (fun table x => set (key x) x table) table

omit [LawfulBEq α] in
/-- A table of the latest entries is filled by replacing what was there. -/
theorem latest_eq_fill (fallback : γ) (table : List (α × γ)) (xs : List γ) :
    latest key table xs = fill key fallback (fun x _ => x) table xs := by
  have hstep : (fun table x => set (key x) x table) =
      fun table x => update (key x) fallback (fun _ => x) table := by
    funext table x
    rw [set_eq_update, update_const (key x) x fallback]
  rw [latest, hstep, fill]

/-- The last entry under a key has that key. -/
theorem key_eq_of_lastUnder {xs : List γ} {k : α} {x : γ} (h : lastUnder key xs k = some x) :
    key x = k := by
  have hmem := List.mem_of_getLast? h
  simpa using (List.mem_filter.1 hmem).2

omit [LawfulBEq α] in
/-- The last entry under a key is one of the entries. -/
theorem mem_of_lastUnder {xs : List γ} {k : α} {x : γ} (h : lastUnder key xs k = some x) :
    x ∈ xs :=
  (List.mem_filter.1 (List.mem_of_getLast? h)).1

/-- A key that an entry has is the key of a last one. -/
theorem exists_lastUnder {xs : List γ} {k : α} (h : k ∈ xs.map key) :
    ∃ x, lastUnder key xs k = some x := by
  rcases List.mem_map.1 h with ⟨x, hx, rfl⟩
  have hkept : x ∈ xs.filter fun y => key y == key x := List.mem_filter.2 ⟨hx, by simp⟩
  exact ⟨_, List.getLast?_eq_some_getLast (List.ne_nil_of_mem hkept)⟩

/-- What is found under a key is what came last. -/
theorem lookup_latest (xs : List γ) (k : α) :
    (latest key [] xs).lookup k = lastUnder key xs k := by
  -- Before the last item, the same holds; the last item replaces what has its key.
  induction xs using List.reverseRecOn with
  | nil => rfl
  | append_singleton xs x ih =>
      have hstep : latest key [] (xs ++ [x]) = set (key x) x (latest key [] xs) := by
        simp [latest]
      rw [hstep, lookup_set, ih, lastUnder, lastUnder, List.filter_append]
      by_cases hk : key x = k
      · simp [hk]
      · have hne : ¬ k = key x := fun h => hk h.symm
        simp [hk, hne]

/-- In a table of the latest entries every key stands once. -/
theorem nodup_keys_latest (xs : List γ) : ((latest key [] xs).map (·.1)).Nodup := by
  cases xs with
  | nil => exact List.nodup_nil
  | cons x xs =>
      rw [latest_eq_fill key x]
      exact nodup_keys_fill key x _ [] (x :: xs) List.nodup_nil

/-- There are as many entries as keys. -/
theorem length_latest (xs : List γ) :
    (latest key [] xs).length = (xs.map key).eraseDups.length := by
  cases xs with
  | nil => rfl
  | cons x xs =>
      rw [latest_eq_fill key x, ← keys_fill key x fun x _ => x, List.length_map]

/-- A table of the latest entries has, under each key, the last one. -/
theorem mem_latest_iff (xs : List γ) (k : α) (x : γ) :
    (k, x) ∈ latest key [] xs ↔ lastUnder key xs k = some x := by
  rw [← lookup_latest, lookup_eq_some_iff_mem (nodup_keys_latest key xs)]

/-- An item is in the table if it came last under its own key. -/
theorem mem_values_latest_iff (xs : List γ) (x : γ) :
    x ∈ (latest key [] xs).map (·.2) ↔ lastUnder key xs (key x) = some x := by
  constructor
  · intro h
    rcases List.mem_map.1 h with ⟨⟨k, x⟩, hmem, rfl⟩
    have hlast := (mem_latest_iff key xs k x).1 hmem
    rwa [key_eq_of_lastUnder key hlast]
  · intro h
    exact List.mem_map.2 ⟨(key x, x), (mem_latest_iff key xs _ x).2 h, rfl⟩

/-- The entries stand under their own keys. -/
theorem map_key_values_latest (xs : List γ) :
    ((latest key [] xs).map (·.2)).map key = (latest key [] xs).map (·.1) := by
  rw [List.map_map]
  apply List.map_congr_left
  rintro ⟨k, x⟩ hmem
  exact key_eq_of_lastUnder key ((mem_latest_iff key xs k x).1 hmem)

variable (test : γ → Bool) (le : γ → γ → Bool)

/-- Sorting and selecting the latest entries gives those that pass the test. -/
theorem mem_sorted_latest_iff (xs : List γ) (x : γ) :
    x ∈ (((latest key [] xs).map (·.2)).filter test).mergeSort le ↔
      lastUnder key xs (key x) = some x ∧ test x = true := by
  rw [List.mem_mergeSort, List.mem_filter, mem_values_latest_iff]

/-- After sorting and selecting, every key still stands at most once. -/
theorem nodup_keys_sorted_latest (xs : List γ) :
    (((((latest key [] xs).map (·.2)).filter test).mergeSort le).map key).Nodup := by
  have hnodup := nodup_keys_latest key xs
  rw [← map_key_values_latest] at hnodup
  have hperm := (List.mergeSort_perm (((latest key [] xs).map (·.2)).filter test) le).map key
  exact hperm.nodup_iff.2 (hnodup.sublist (List.filter_sublist.map key))

end

omit [LawfulBEq α] in
/-- A member of a table in which a value is set is that value or was there before. -/
theorem mem_set {key : α} {value : β} {table : List (α × β)} {p : α × β}
    (h : p ∈ set key value table) : p.2 = value ∨ p ∈ table := by
  induction table with
  | nil =>
      rw [set, List.mem_singleton] at h
      exact Or.inl (by rw [h])
  | cons q rest ih =>
      simp only [set] at h
      split at h
      · rcases List.mem_cons.1 h with rfl | h
        · exact Or.inl rfl
        · exact Or.inr (List.mem_cons_of_mem q h)
      · rcases List.mem_cons.1 h with rfl | h
        · exact Or.inr List.mem_cons_self
        · exact (ih h).imp id (List.mem_cons_of_mem q)

omit [LawfulBEq α] in
/-- The values of a table that is made of pairs are values of these pairs. -/
theorem exists_of_mem_ofPairs {ps : List (α × β)} {p : α × β} (h : p ∈ ofPairs ps) :
    ∃ q ∈ ps, q.2 = p.2 := by
  -- The table so far is made of pairs, too.
  have hfold : ∀ (rest : List (α × β)) (table : List (α × β)),
      (∀ p ∈ table, ∃ q ∈ ps, q.2 = p.2) → (∀ q ∈ rest, q ∈ ps) →
      ∀ p ∈ rest.foldl (fun table q => set q.1 q.2 table) table, ∃ q ∈ ps, q.2 = p.2 := by
    intro rest
    induction rest with
    | nil => exact fun table htable _ => htable
    | cons q rest ih =>
        intro table htable hrest
        apply ih
        · intro p hp
          rcases mem_set hp with hvalue | hp
          · exact ⟨q, hrest q List.mem_cons_self, hvalue.symm⟩
          · exact htable p hp
        · exact fun q' hq' => hrest q' (List.mem_cons_of_mem q hq')
  exact hfold ps [] (by simp) (fun q hq => hq) p h

/-! ## Groups -/

section Groups

variable (key : β → Option α)

/-- The items that have a key, each with it. -/
def keyed (items : List β) : List (α × β) :=
  items.filterMap fun x => (key x).map fun k => (k, x)

omit [LawfulBEq α] in
/-- Grouping fills a table by appending to the groups. -/
theorem group_eq_fill (items : List β) :
    group key items = fill (·.1) [] (fun p v => v ++ [p.2]) [] (keyed key items) := by
  induction items using List.reverseRecOn with
  | nil => rfl
  | append_singleton items x ih =>
      unfold group at ih ⊢
      rw [List.foldl_append, ih]
      cases hkey : key x with
      | none => simp [keyed, hkey]
      | some k => simp [keyed, hkey, fill, push]

/-- Every group has a key of its own. -/
theorem nodup_keys_group (items : List β) : ((group key items).map (·.1)).Nodup := by
  rw [group_eq_fill]
  exact nodup_keys_fill _ _ _ [] _ List.nodup_nil

omit [BEq α] [LawfulBEq α] in
/-- The keys of keyed items are those that the items have. -/
theorem keys_keyed (items : List β) : (keyed key items).map (·.1) = items.filterMap key := by
  simp [keyed, List.map_filterMap, Function.comp_def]

/-- The group of a key is made of the items that have it, in order. -/
theorem valueOf_keyed (items : List β) (k : α) :
    valueOf (·.1) (fun p v => v ++ [p.2]) (keyed key items) k [] =
      items.filter fun x => key x == some k := by
  have happend : ∀ (ps : List (α × β)) (start : List β),
      ps.foldl (fun v p => v ++ [p.2]) start = start ++ ps.map (·.2) := by
    intro ps
    induction ps with
    | nil => simp
    | cons p rest ih => simp [ih]
  unfold valueOf
  rw [happend, List.nil_append]
  induction items with
  | nil => rfl
  | cons x rest ih =>
      cases hkey : key x with
      | none => simpa [keyed, hkey] using ih
      | some k' =>
          by_cases hk : k' = k <;> simpa [keyed, hkey, hk] using ih

/-- Groups stand in the order in which their keys came first, and hold the items of their key in
their order. -/
theorem group_eq (items : List β) :
    group key items = (items.filterMap key).eraseDups.map fun k =>
      (k, items.filter fun x => key x == some k) := by
  rw [group_eq_fill, fill_eq, keys_keyed]
  exact List.map_congr_left fun k _ => by rw [valueOf_keyed]

omit [LawfulBEq α] in
/-- Pushing an item onto its group adds that item to all. -/
theorem perm_items_push (k : α) (x : β) (table : List (α × List β)) :
    ((push k x table).flatMap (·.2)).Perm (table.flatMap (·.2) ++ [x]) := by
  unfold push
  induction table with
  | nil => simp [update]
  | cons g rest ih =>
      rw [update]
      split
      · simp only [List.flatMap_cons, List.append_assoc]
        exact List.perm_append_comm.append_left _
      · simp only [List.flatMap_cons, List.append_assoc]
        exact ih.append_left _

omit [LawfulBEq α] in
/-- Grouping loses no item that has a key, and repeats none. -/
theorem perm_items_group (items : List β) :
    ((group key items).flatMap (·.2)).Perm (items.filter fun x => (key x).isSome) := by
  induction items using List.reverseRecOn with
  | nil => exact List.Perm.refl _
  | append_singleton items x ih =>
      unfold group at ih ⊢
      rw [List.foldl_append, List.filter_append]
      cases hkey : key x with
      | none => simpa [hkey] using ih
      | some k =>
          simp only [List.foldl_cons, List.foldl_nil, hkey]
          refine (perm_items_push k x _).trans ?_
          simpa [hkey] using ih.append_right [x]

end Groups

/-- Owners that hold what is theirs hold together every owned item once. -/
theorem perm_flatMap_of_owner {α β : Type} {groups : List α} {items : List β} {held : α → List β}
    (owner : β → Option α) (hgroups : groups.Nodup) (hitems : items.Nodup)
    (hheld : ∀ g ∈ groups, (held g).Nodup)
    (hmem : ∀ g ∈ groups, ∀ x, x ∈ held g ↔ x ∈ items ∧ owner x = some g)
    (howned : ∀ x ∈ items, ∃ g ∈ groups, owner x = some g) :
    (groups.flatMap held).Perm items := by
  have hall : (groups.flatMap held).Nodup := by
    refine List.nodup_flatMap.2 ⟨hheld, ?_⟩
    -- An item that two of them hold would have two owners.
    refine hgroups.imp_of_mem fun {g g'} hg hg' hne x hx hx' => hne ?_
    have howner := ((hmem g hg x).1 hx).2
    rw [((hmem g' hg' x).1 hx').2] at howner
    exact (Option.some.inj howner).symm
  refine (List.perm_ext_iff_of_nodup hall hitems).2 fun x => ?_
  rw [List.mem_flatMap]
  constructor
  · rintro ⟨g, hg, hx⟩
    exact ((hmem g hg x).1 hx).1
  · intro hx
    obtain ⟨g, hg, howner⟩ := howned x hx
    exact ⟨g, hg, (hmem g hg x).2 ⟨hx, howner⟩⟩

end Assoc

/-- A total is the sum of the numbers. -/
theorem total_eq_sum (ns : List Nat) : total ns = ns.sum := by
  induction ns with
  | nil => rfl
  | cons n ns ih => simp [total, ih]

/-- A balance is the sum of the numbers. -/
theorem balance_eq_sum (ns : List Int) : balance ns = ns.sum := by
  induction ns with
  | nil => rfl
  | cons n ns ih => simp [balance, ih]

end CrossAudit
