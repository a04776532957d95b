import CrossAudit.Launcher.Version
import CrossAudit.Proofs.Failing
import CrossAudit.Proofs.Text.Classes
import CrossAudit.Proofs.Text.Ends
import Mathlib.Data.List.Basic
import Mathlib.Tactic.Common

/-!
# The order of versions

Two versions are compared at the length of the longer one, and three versions are compared in pairs
at three lengths.  Written at one common length, filled up with zeros, their numbers are compared
as lists are, and so the order of versions inherits the laws of the order of lists.

Numbers of versions are only read up to a length.  A version with a longer one is compared with
none, not even with itself.

Main results:

- Theorem `compareNumbers_eq_compare`: the comparison of numbers is that of lists of one length.
- Theorem `digitRuns_append_zero`: behind a version, `.0` adds one number, which is zero.
- Theorem `exists_compareChecked_eq_error_iff`: which versions cannot be compared.
- Theorem `versions_preordered`: on all others the comparison is a total preorder, in which `.0` at
  the end does not count.
- Theorem `compareChecked_nines_self`: a version that is not even compared with itself.
-/

namespace CrossAudit
namespace Version

/-! ## Numbers at a common length -/

/-- Numbers are compared as lists at any common length, filled up with zeros. -/
theorem compareNumbers_eq_compare {n : Nat} {as bs : List Nat} (ha : as.length ≤ n)
    (hb : bs.length ≤ n) :
    compareNumbers as bs = Ord.compare (as.rightpad n 0) (bs.rightpad n 0) := by
  have hcons : ∀ (a : Nat) (xs : List Nat) (m : Nat),
      (a :: xs).rightpad (m + 1) 0 = a :: xs.rightpad m 0 := by
    intro a xs m
    simp [List.rightpad]
  have hnil : ∀ m : Nat, ([] : List Nat).rightpad (m + 1) 0 = 0 :: ([] : List Nat).rightpad m 0 :=
    fun m => rfl
  fun_induction compareNumbers as bs generalizing n with
  | case1 => exact Std.ReflCmp.compare_self.symm
  | case2 b bs ih =>
      obtain ⟨m, rfl⟩ : ∃ m, n = m + 1 := ⟨n - 1, by simp at hb; omega⟩
      rw [hnil, hcons, List.compare_cons_cons, ih (by simp) (by simpa using hb)]
  | case3 a as ih =>
      obtain ⟨m, rfl⟩ : ∃ m, n = m + 1 := ⟨n - 1, by simp at ha; omega⟩
      rw [hnil, hcons, List.compare_cons_cons, ih (by simpa using ha) (by simp)]
  | case4 a as b bs ih =>
      obtain ⟨m, rfl⟩ : ∃ m, n = m + 1 := ⟨n - 1, by simp at ha; omega⟩
      rw [hcons, hcons, List.compare_cons_cons, ih (by simpa using ha) (by simpa using hb)]

/-- The comparison of numbers is a total preorder. -/
instance : Std.TransCmp compareNumbers where
  eq_swap := by
    intro as bs
    rw [compareNumbers_eq_compare (le_max_left as.length bs.length) (le_max_right _ _),
      compareNumbers_eq_compare (le_max_right as.length bs.length) (le_max_left _ _)]
    exact Std.OrientedCmp.eq_swap
  isLE_trans := by
    intro as bs cs hab hbc
    -- One length at which all three are compared.
    obtain ⟨n, ha, hb, hc⟩ : ∃ n, as.length ≤ n ∧ bs.length ≤ n ∧ cs.length ≤ n :=
      ⟨as.length + bs.length + cs.length, by omega, by omega, by omega⟩
    rw [compareNumbers_eq_compare ha hb] at hab
    rw [compareNumbers_eq_compare hb hc] at hbc
    rw [compareNumbers_eq_compare ha hc]
    exact Std.TransCmp.isLE_trans hab hbc

/-- A zero at the end does not count. -/
theorem compareNumbers_append_zero (as : List Nat) : compareNumbers as (as ++ [0]) = .eq := by
  induction as with
  | nil => simp [compareNumbers]
  | cons a as ih => simp [compareNumbers, ih]

/-- Zero comes before every number, whatever is compared next. -/
theorem isLE_zero_then {n : Nat} {o : Ordering} (h : o.isLE = true) :
    ((Ord.compare 0 n).then o).isLE = true := by
  rcases Nat.eq_zero_or_pos n with rfl | hpos
  · simpa using h
  · simp [Nat.compare_eq_lt.2 hpos]

/-- Numbers that are missing count as zeros, the least numbers. -/
theorem isLE_compareNumbers_nil (as : List Nat) : (compareNumbers [] as).isLE = true := by
  induction as with
  | nil => simp [compareNumbers]
  | cons a as ih =>
      rw [compareNumbers]
      exact isLE_zero_then ih

/-- Every version equals itself in the order. -/
theorem order_self (a : String) : order a a = .eq := by
  have hsame : compareNumbers (numbers a) (numbers a) = .eq := Std.ReflCmp.compare_self
  exact hsame

/-- Exchanging two versions turns their order around. -/
theorem order_eq_swap (a b : String) : order a b = (order b a).swap := by
  have hswap : compareNumbers (numbers a) (numbers b) =
      (compareNumbers (numbers b) (numbers a)).swap := Std.OrientedCmp.eq_swap
  exact hswap

instance : Std.TransCmp order where
  eq_swap := order_eq_swap _ _
  isLE_trans := by
    intro a b c hab hbc
    change (compareNumbers (numbers a) (numbers b)).isLE = true at hab
    change (compareNumbers (numbers b) (numbers c)).isLE = true at hbc
    change (compareNumbers (numbers a) (numbers c)).isLE = true
    exact Std.TransCmp.isLE_trans hab hbc

/-! ## Outcomes as numbers -/

/-- A version is neither newer nor older than itself. -/
theorem compare_self (a : String) : compare a a = 0 := by
  rw [compare, order_self]

/-- Exchanging two versions changes the sign of their comparison. -/
theorem compare_swap (a b : String) : compare b a = -compare a b := by
  rw [compare, compare, order_eq_swap]
  cases order a b <;> rfl

/-- A version is at least as new as another if the other is not after it in the order. -/
theorem compare_nonneg_iff {a b : String} : 0 ≤ compare a b ↔ (order b a).isLE = true := by
  rw [compare, order_eq_swap]
  cases order b a <;> simp

/-- A version is newer than another if the other is before it in the order. -/
theorem compare_pos_iff {a b : String} : 0 < compare a b ↔ order b a = .lt := by
  rw [compare, order_eq_swap]
  cases order b a <;> simp

/-- Every version is at least the empty one. -/
theorem compare_empty_nonneg (a : String) : 0 ≤ compare a "" := by
  rw [compare_nonneg_iff]
  change (compareNumbers [0] (numbers a)).isLE = true
  cases numbers a with
  | nil => simp [compareNumbers]
  | cons n ns =>
      rw [compareNumbers]
      exact isLE_zero_then (isLE_compareNumbers_nil ns)

/-- Being at least as new is transitive. -/
theorem compare_nonneg_trans {a b c : String} (hab : 0 ≤ compare a b) (hbc : 0 ≤ compare b c) :
    0 ≤ compare a c := by
  rw [compare_nonneg_iff] at hab hbc ⊢
  exact Std.TransCmp.isLE_trans hbc hab

/-- If one of two steps leads to an older version, so do both together. -/
theorem compare_pos_trans {a b c : String} (hab : 0 ≤ compare a b) (hbc : 0 ≤ compare b c)
    (h : 0 < compare a b ∨ 0 < compare b c) : 0 < compare a c := by
  rw [compare_nonneg_iff] at hab hbc
  rw [compare_pos_iff]
  cases h with
  | inl hpos => exact Std.TransCmp.lt_of_isLE_of_lt hbc (compare_pos_iff.1 hpos)
  | inr hpos => exact Std.TransCmp.lt_of_lt_of_isLE (compare_pos_iff.1 hpos) hab

/-! ## Versions that can be read -/

/-- A version all numbers of which can be read. -/
def Legible (version : String) : Prop :=
  ∀ part ∈ parts version, (part.takeWhile Text.isDecimal).length ≤ Text.digitLimit

/-- The numbers of a version can be taken exactly if it is legible. -/
theorem check_eq_ok_iff {version : String} : check version = .ok () ↔ Legible version := by
  rw [check, forM_eq_ok_iff, Legible]
  refine forall₂_congr fun part _ => ?_
  by_cases h : Text.digitLimit < (part.takeWhile Text.isDecimal).length
  · simp [h]
  · simp [h, Nat.not_lt.1 h]

/-- A version is refused for a number with too many digits. -/
theorem exists_of_check_eq_error {version : String} {f : Fault} (h : check version = .error f) :
    ∃ count, Text.digitLimit < count ∧ f = .tooManyDigits count := by
  obtain ⟨part, -, hpart⟩ := exists_of_forM_eq_error h
  dsimp only at hpart
  split at hpart
  · rename_i hcount
    exact ⟨_, hcount, by simpa using hpart.symm⟩
  · cases hpart

/-- Legible versions are compared without an error. -/
theorem compareChecked_eq_ok {a b : String} (ha : Legible a) (hb : Legible b) :
    compareChecked a b = .ok (compare a b) := by
  rw [compareChecked, check_eq_ok_iff.2 ha, check_eq_ok_iff.2 hb]
  rfl

/-- Versions cannot be compared exactly if one of them cannot be read, for too many digits. -/
theorem exists_compareChecked_eq_error_iff {a b : String} :
    (∃ count, Text.digitLimit < count ∧ compareChecked a b = .error (.tooManyDigits count)) ↔
      ¬ (Legible a ∧ Legible b) := by
  constructor
  · rintro ⟨count, -, herror⟩ ⟨ha, hb⟩
    rw [compareChecked_eq_ok ha hb] at herror
    cases herror
  · intro h
    rw [not_and_or, ← check_eq_ok_iff, ← check_eq_ok_iff] at h
    cases hcheck : check a with
    | error f =>
        obtain ⟨count, hcount, rfl⟩ := exists_of_check_eq_error hcheck
        exact ⟨count, hcount, by rw [compareChecked, hcheck]; rfl⟩
    | ok _ =>
        cases hcheck' : check b with
        | error f =>
            obtain ⟨count, hcount, rfl⟩ := exists_of_check_eq_error hcheck'
            exact ⟨count, hcount, by rw [compareChecked, hcheck, hcheck']; rfl⟩
        | ok _ => simp [hcheck, hcheck'] at h

/-- A comparison fails exactly if one of its versions is not legible. -/
theorem fails_compareChecked_iff {a b : String} :
    Fails (compareChecked a b) ↔ ¬ (Legible a ∧ Legible b) := by
  rw [← exists_compareChecked_eq_error_iff]
  constructor
  · intro hfails
    rw [exists_compareChecked_eq_error_iff]
    rintro ⟨ha, hb⟩
    rw [compareChecked_eq_ok ha hb] at hfails
    exact not_fails_ok _ hfails
  · rintro ⟨count, -, herror⟩
    exact ⟨_, herror⟩

/-! ## A zero at the end -/

/-- The digits that the parts of a text between its dots start with. -/
def runsOf (cs : List Char) : List (List Char) :=
  (cs.splitOn '.').map fun part => part.takeWhile Text.isDecimal

/-- The digits that the parts of a version start with. -/
def digitRuns (version : String) : List (List Char) :=
  runsOf (dropMark (Chars.strip version.toList))

/-- The runs of digits stand at the start of the parts between dots. -/
theorem digitRuns_eq (version : String) :
    digitRuns version = (parts version).map fun part => part.takeWhile Text.isDecimal :=
  rfl

/-- The numbers of a version are the values of its runs of digits. -/
theorem numbers_eq (version : String) : numbers version = (digitRuns version).map Text.digitsValue := by
  rw [numbers, digitRuns_eq, List.map_map]
  rfl

/-- A version is legible if no run of digits is longer than the limit. -/
theorem legible_iff {version : String} :
    Legible version ↔ ∀ ds ∈ digitRuns version, ds.length ≤ Text.digitLimit := by
  rw [Legible, digitRuns_eq, List.forall_mem_map]

/-- The runs of digits, character by character from the front. -/
theorem runsOf_cons (c : Char) (cs : List Char) : runsOf (c :: cs) =
    if c = '.' then [] :: runsOf cs
    else (runsOf cs).modifyHead fun ds => if Text.isDecimal c then c :: ds else [] := by
  rw [runsOf, List.splitOn_cons_eq_if_modifyHead]
  by_cases hdot : c = '.'
  · simp [hdot, runsOf]
  · simp only [beq_iff_eq, hdot, if_false, runsOf]
    cases cs.splitOn '.' with
    | nil => rfl
    | cons part rest =>
        by_cases hdecimal : Text.isDecimal c = true <;> simp [hdecimal]

/-- A blank is no dot. -/
theorem ne_dot_of_isBlank {c : Char} (h : Text.isBlank c = true) : c ≠ '.' := by
  rintro rfl
  exact absurd h (by decide)

/-- Blanks at the end of a text are in none of the digits. -/
theorem runsOf_append_blanks {blanks : List Char} (h : ∀ c ∈ blanks, Text.isBlank c = true)
    (cs : List Char) : runsOf (cs ++ blanks) = runsOf cs := by
  induction cs with
  | nil =>
      induction blanks with
      | nil => rfl
      | cons c blanks ih =>
          have hc := h c List.mem_cons_self
          have hrest := ih fun d hd => h d (List.mem_cons_of_mem c hd)
          rw [List.nil_append] at hrest ⊢
          rw [runsOf_cons, hrest, Text.isDecimal_of_isBlank hc, if_neg (ne_dot_of_isBlank hc)]
          rfl
  | cons c cs ih => rw [List.cons_append, runsOf_cons, runsOf_cons, ih]

/-- What is added behind a text leaves its mark as it is, unless it goes on with a letter of one. -/
theorem dropMark_append {ds : List Char} (h : ∀ c ∈ ds.head?, c ≠ 'v' ∧ c ≠ 'g' ∧ c ≠ 'o')
    (cs : List Char) : dropMark (cs ++ ds) = dropMark cs ++ ds := by
  fun_cases dropMark cs with
  | case1 rest => rfl
  | case2 rest => rfl
  | case3 _ hv hgo =>
      rw [dropMark]
      · intro rest hcons
        cases cs with
        | nil => exact (h 'v' (by rw [List.nil_append] at hcons; rw [hcons]; rfl)).1 rfl
        | cons c cs =>
            rw [List.cons_append, List.cons.injEq] at hcons
            exact hv cs (by rw [hcons.1])
      · intro rest hcons
        match cs, hgo with
        | [], _ => exact (h 'g' (by rw [List.nil_append] at hcons; rw [hcons]; rfl)).2.1 rfl
        | [c], _ => 
            rw [List.cons_append, List.cons.injEq, List.nil_append] at hcons
            exact (h 'o' (by rw [hcons.2]; rfl)).2.2 rfl
        | c :: d :: cs, hgo =>
            rw [List.cons_append, List.cons_append, List.cons.injEq, List.cons.injEq] at hcons
            exact hgo cs (by rw [hcons.1, hcons.2.1])

/-- Behind a version, `.0` adds one number, which is zero. -/
theorem digitRuns_append_zero (version : String) :
    digitRuns (version ++ ".0") = digitRuns version ++ [['0']] := by
  obtain ⟨blanks, hblanks, hstrip⟩ := Chars.exists_strip_append version.toList
  have hhead : ∀ c ∈ (blanks ++ ['.', '0']).head?, c ≠ 'v' ∧ c ≠ 'g' ∧ c ≠ 'o' := by
    intro c hc
    cases blanks with
    | nil =>
        cases hc
        decide
    | cons b blanks =>
        have hb := hblanks b List.mem_cons_self
        cases hc
        refine ⟨?_, ?_, ?_⟩ <;> rintro rfl <;> exact absurd hb (by decide)
  have hruns : ∀ cs : List Char, runsOf (cs ++ ['.', '0']) = runsOf cs ++ [['0']] := by
    intro cs
    rw [runsOf, List.splitOn_append_cons_self, List.map_append]
    rfl
  calc digitRuns (version ++ ".0")
      = runsOf (dropMark (Chars.strip version.toList ++ (blanks ++ ['.', '0']))) := by
        rw [digitRuns, String.toList_append, ← List.append_assoc,
          ← hstrip ['.', '0'] (by simp) (by decide)]
        rfl
    _ = runsOf (dropMark (Chars.strip version.toList)) ++ [['0']] := by
        rw [dropMark_append hhead, ← List.append_assoc, hruns, runsOf_append_blanks hblanks]

/-- One more part of zero leaves a version legible. -/
theorem legible_append_zero {version : String} (h : Legible version) :
    Legible (version ++ ".0") := by
  rw [legible_iff, digitRuns_append_zero]
  intro ds hds
  rcases List.mem_append.1 hds with hds | hds
  · exact legible_iff.1 h ds hds
  · rw [List.mem_singleton.1 hds]
    decide

/-- One more part of zero makes a version neither newer nor older. -/
theorem compare_append_zero (a : String) : compare a (a ++ ".0") = 0 := by
  have horder : order a (a ++ ".0") = .eq := by
    rw [order, numbers_eq, numbers_eq, digitRuns_append_zero, List.map_append]
    exact compareNumbers_append_zero _
  rw [compare, horder]

/-! ## The order -/

/-- Versions cannot be compared exactly if a number in one of them has too many digits to be read.
On all others the comparison is a total preorder, in which `.0` at the end does not count. -/
theorem versions_preordered (a b c : String) :
    ((∃ count, Text.digitLimit < count ∧ compareChecked a b = .error (.tooManyDigits count)) ↔
      ¬ (Legible a ∧ Legible b)) ∧
    (Legible a → compareChecked a a = .ok 0 ∧ compareChecked a (a ++ ".0") = .ok 0) ∧
    (Legible a → Legible b →
      ∃ n, compareChecked a b = .ok n ∧ compareChecked b a = .ok (-n)) ∧
    (Legible a → Legible b → Legible c → ∃ m n k,
      compareChecked a b = .ok m ∧ compareChecked b c = .ok n ∧ compareChecked a c = .ok k ∧
        (0 ≤ m → 0 ≤ n → 0 ≤ k ∧ (0 < m ∨ 0 < n → 0 < k))) := by
  refine ⟨exists_compareChecked_eq_error_iff, ?_, ?_, ?_⟩
  · intro ha
    rw [compareChecked_eq_ok ha ha, compareChecked_eq_ok ha (legible_append_zero ha), compare_self,
      compare_append_zero]
    exact ⟨rfl, rfl⟩
  · intro ha hb
    exact ⟨compare a b, compareChecked_eq_ok ha hb, by rw [compareChecked_eq_ok hb ha, compare_swap]⟩
  · intro ha hb hc
    refine ⟨_, _, _, compareChecked_eq_ok ha hb, compareChecked_eq_ok hb hc,
      compareChecked_eq_ok ha hc, ?_⟩
    intro hab hbc
    exact ⟨compare_nonneg_trans hab hbc, compare_pos_trans hab hbc⟩

instance : DecidablePred Legible := fun version =>
  inferInstanceAs (Decidable
    (∀ part ∈ parts version, (part.takeWhile Text.isDecimal).length ≤ Text.digitLimit))

/-- Three releases of different lengths, written in different ways, from the newest on. -/
theorem versions_preordered_releases :
    (Legible "go1.21.4" ∧ Legible "1.18 " ∧ Legible "v1.9.x.7") ∧
      compareChecked "1.18 " "1.18 .0" = .ok 0 ∧
      (∃ n, compareChecked "go1.21.4" "1.18 " = .ok n ∧ compareChecked "1.18 " "go1.21.4" = .ok (-n)) ∧
      ∃ m n k, compareChecked "go1.21.4" "1.18 " = .ok m ∧
        compareChecked "1.18 " "v1.9.x.7" = .ok n ∧ compareChecked "go1.21.4" "v1.9.x.7" = .ok k ∧
        (0 ≤ m → 0 ≤ n → 0 ≤ k ∧ (0 < m ∨ 0 < n → 0 < k)) := by
  have hgo : Legible "go1.21.4" := by decide +kernel
  have hplain : Legible "1.18 " := by decide +kernel
  have hmarked : Legible "v1.9.x.7" := by decide +kernel
  refine ⟨⟨hgo, hplain, hmarked⟩, ?_, ?_, ?_⟩
  · exact ((versions_preordered "1.18 " "" "").2.1 hplain).2
  · exact (versions_preordered "go1.21.4" "1.18 " "").2.2.1 hgo hplain
  · exact (versions_preordered "go1.21.4" "1.18 " "v1.9.x.7").2.2.2 hgo hplain hmarked

/-- A version of one number, all digits of which are nines. -/
def nines (count : Nat) : String :=
  String.ofList (List.replicate count '9')

/-- A row of nines is one part. -/
theorem parts_nines (count : Nat) : parts (nines count) = [List.replicate count '9'] := by
  have hmem : ∀ c ∈ List.replicate count '9', c = '9' := fun c hc => List.eq_of_mem_replicate hc
  have hstrip : Chars.strip (List.replicate count '9') = List.replicate count '9' := by
    apply Chars.strip_eq_self
    intro c hc
    rw [hmem c hc]
    decide
  have hmark : dropMark (List.replicate count '9') = List.replicate count '9' := by
    cases count <;> rfl
  rw [parts, nines, String.toList_ofList, hstrip, hmark]
  apply List.splitOn_eq_singleton
  intro hdot
  exact absurd (hmem '.' hdot) (by decide)

/-- More nines than the limit cannot be taken for a number. -/
theorem check_nines {count : Nat} (h : Text.digitLimit < count) :
    check (nines count) = .error (.tooManyDigits count) := by
  have hrun : (List.replicate count '9').takeWhile Text.isDecimal = List.replicate count '9' :=
    List.takeWhile_eq_self_iff.2 fun c hc => by
      rw [List.eq_of_mem_replicate hc]
      decide
  rw [check, parts_nines]
  simp [hrun, h]

/-- A version with a number of too many digits is not even compared with itself. -/
theorem compareChecked_nines_self :
    compareChecked (nines 4301) (nines 4301) = .error (.tooManyDigits 4301) := by
  have hlimit : Text.digitLimit < 4301 := by decide
  rw [compareChecked, check_nines hlimit]
  rfl

end Version
end CrossAudit
