import CrossAudit.Proofs.Assoc
import CrossAudit.Toml.Value

/-!
# Configurations that differ in order only

A configuration that is written and read again may have its names in another order.  Two values are
alike if they are equal but for the order of names in tables, at any depth.

Main results:

- Theorem `Toml.Alike.trans`: being alike passes on.
- Theorem `Toml.alike_table_iff`: tables are alike if the same names have values that are alike.
- Theorem `Toml.Alike.holds_eq`: values that are alike hold alike.
- Theorem `Toml.eq_of_identical`: values that are found identical are equal.
-/

namespace CrossAudit
namespace Toml

variable {v w u : Value} {xs ys : List Value} {ms ns : Table}

/-- Two values are equal but for the order of names in tables. -/
inductive Alike : Value → Value → Prop where
  | refl (v : Value) : Alike v v
  | array {xs ys : List Value} : xs.length = ys.length →
      (∀ (i : Nat) (v w : Value), xs[i]? = some v → ys[i]? = some w → Alike v w) →
      Alike (.array xs) (.array ys)
  | table {ms ns : Table} : (∀ name, (ms.lookup name).isSome = (ns.lookup name).isSome) →
      (∀ name v w, ms.lookup name = some v → ns.lookup name = some w → Alike v w) →
      Alike (.table ms) (.table ns)

namespace Alike

theorem trans (h : Alike v w) (h' : Alike w u) : Alike v u := by
  induction h generalizing u with
  | refl _ => exact h'
  | @array xs ys hlength hitems ih =>
      cases h' with
      | refl _ => exact .array hlength hitems
      | @array _ zs hlength' hitems' =>
          refine .array (hlength.trans hlength') fun i v w hv hw => ?_
          have hlt : i < ys.length := hlength ▸ (List.getElem?_eq_some_iff.1 hv).1
          exact ih i v ys[i] hv (List.getElem?_eq_getElem hlt)
            (hitems' i ys[i] w (List.getElem?_eq_getElem hlt) hw)
  | @table ms ns hnames hmembers ih =>
      cases h' with
      | refl _ => exact .table hnames hmembers
      | @table _ ls hnames' hmembers' =>
          refine .table (fun name => (hnames name).trans (hnames' name)) fun name v w hv hw => ?_
          obtain ⟨x, hx⟩ : ∃ x, ns.lookup name = some x := by
            rw [← Option.isSome_iff_exists, ← hnames name, hv]
            rfl
          exact ih name v x hv hx (hmembers' name x w hx hw)

theorem eq_text {s : String} (h : Alike (.text s) v) : v = .text s := by
  cases h
  rfl

theorem exists_table (h : Alike (.table ms) v) : ∃ ns, v = .table ns := by
  cases h with
  | refl _ => exact ⟨ms, rfl⟩
  | table _ _ => exact ⟨_, rfl⟩

end Alike

/-- Tables are alike if the same names have values that are alike. -/
theorem alike_table_iff :
    Alike (.table ms) (.table ns) ↔ ∀ name, Option.Rel Alike (ms.lookup name) (ns.lookup name) := by
  constructor
  · intro h name
    cases h with
    | refl _ =>
        cases ms.lookup name with
        | none => exact .none
        | some v => exact .some (.refl v)
    | table hnames hmembers =>
        have hboth := hnames name
        cases hv : ms.lookup name with
        | none =>
            rw [hv, Option.isSome_none, eq_comm, Option.isSome_eq_false_iff,
              Option.isNone_iff_eq_none] at hboth
            rw [hboth]
            exact .none
        | some v =>
            rw [hv, Option.isSome_some, eq_comm, Option.isSome_iff_exists] at hboth
            obtain ⟨w, hw⟩ := hboth
            rw [hw]
            exact .some (hmembers name v w hv hw)
  · intro h
    refine .table (fun name => ?_) fun name v w hv hw => ?_
    · have hname := h name
      revert hname
      cases ms.lookup name <;> cases ns.lookup name <;> rintro ⟨⟩ <;> rfl
    · have hname := h name
      rw [hv, hw] at hname
      cases hname
      assumption

/-- Values that are alike hold alike. -/
theorem Alike.holds_eq (h : Alike v w) : v.holds = w.holds := by
  cases h with
  | refl _ => rfl
  | @array xs ys hlength _ =>
      cases xs with
      | nil => rw [List.length_eq_zero_iff.1 hlength.symm]
      | cons x xs =>
          cases ys with
          | nil => cases hlength
          | cons y ys => rfl
  | @table ms ns hnames _ =>
      -- A table without members is the only one in which no name is found.
      rcases ms with _ | ⟨⟨k, v⟩, ms⟩ <;> rcases ns with _ | ⟨⟨l, w⟩, ns⟩
      · rfl
      · have hname := hnames l
        simp at hname
      · have hname := hnames k
        simp at hname
      · rfl

/-! ## Identical values -/

mutual

/-- Whether two values are equal, names in the same order. -/
def identical : Value → Value → Bool
  | .text s, .text t => s == t
  | .integer m, .integer n => m == n
  | .real x, .real y => x == y
  | .truth a, .truth b => a == b
  | .moment m, .moment n => m == n
  | .array xs, .array ys => identicalItems xs ys
  | .table ms, .table ns => identicalMembers ms ns
  | _, _ => false

/-- Whether two lists have the same items. -/
def identicalItems : List Value → List Value → Bool
  | [], [] => true
  | x :: xs, y :: ys => identical x y && identicalItems xs ys
  | _, _ => false

/-- Whether two lists have the same members. -/
def identicalMembers : Table → Table → Bool
  | [], [] => true
  | (k, v) :: ms, (l, w) :: ns => k == l && identical v w && identicalMembers ms ns
  | _, _ => false

end

mutual

/-- Values that are found identical are equal. -/
theorem eq_of_identical : ∀ {v w : Value}, identical v w = true → v = w
  | .text _, .text _, h | .integer _, .integer _, h | .real _, .real _, h
  | .truth _, .truth _, h | .moment _, .moment _, h => by
      rw [identical, beq_iff_eq] at h
      rw [h]
  | .array xs, .array ys, h => by
      rw [identical] at h
      rw [eq_of_identicalItems h]
  | .table ms, .table ns, h => by
      rw [identical] at h
      rw [eq_of_identicalMembers h]

theorem eq_of_identicalItems : ∀ {xs ys : List Value}, identicalItems xs ys = true → xs = ys
  | [], [], _ => rfl
  | x :: xs, y :: ys, h => by
      rw [identicalItems, Bool.and_eq_true] at h
      rw [eq_of_identical h.1, eq_of_identicalItems h.2]

theorem eq_of_identicalMembers : ∀ {ms ns : Table}, identicalMembers ms ns = true → ms = ns
  | [], [], _ => rfl
  | (k, v) :: ms, (l, w) :: ns, h => by
      rw [identicalMembers, Bool.and_eq_true, Bool.and_eq_true, beq_iff_eq] at h
      rw [h.1.1, eq_of_identical h.1.2, eq_of_identicalMembers h.2]

end

end Toml
end CrossAudit
