import CrossAudit.Proofs.Schema.Drift

/-!
# Types in array levels

Two field types may go together without being the same: one of them is `any`, or both are arrays and
one of them is an array of `any`.  Put into one array level, a type beside `any` stays compatible,
since an array of `any` goes with every array.  That is where it ends: an array of `any` is looked
for on the outside only, so below a second level types have to be the same.

Main results:

- Theorem `compatible_nested_iff`: when two types go together in the same number of levels.
- Theorem `drift_found_iff`: two shapes are found to disagree on a field where its types do not go
  together.
- Theorem `compatible_one_level_iff`, `DeclareNested.driftFound_iff`: what becomes of compatible
  types in one more level, and of a field with such types.
- Theorem `nested_compatible_iff`: both together.
- Theorem `nested_apart_list`: compatible types that do not go together one level further out.
-/

namespace CrossAudit
namespace Schema

/-! ## Levels -/

/-- A type in a number of array levels. -/
def nested : Nat → String → String
  | 0, type => type
  | n + 1, type => "array<" ++ nested n type ++ ">"

@[simp]
theorem nested_zero (type : String) : nested 0 type = type :=
  rfl

/-- One more array is written around the others. -/
theorem nested_succ (n : Nat) (type : String) :
    nested (n + 1) type = "array<" ++ nested n type ++ ">" :=
  rfl

@[simp]
theorem isArray_nested_succ (n : Nat) (type : String) : isArray (nested (n + 1) type) = true := by
  simp [isArray, Text.startsWith, nested_succ]

/-- A type that is no array is not nested. -/
theorem nested_succ_ne {n : Nat} {type other : String} (h : isArray other = false) :
    nested (n + 1) type ≠ other := by
  rintro rfl
  rw [isArray_nested_succ] at h
  cases h

/-- An array is not the type of everything. -/
theorem nested_succ_ne_any (n : Nat) (type : String) : nested (n + 1) type ≠ "any" :=
  nested_succ_ne (by decide)

/-- Nested types are the same exactly if their elements are. -/
theorem nested_succ_inj {m n : Nat} {l r : String} :
    nested (m + 1) l = nested (n + 1) r ↔ nested m l = nested n r := by
  simp only [nested_succ, String.ext_iff, String.toList_append, List.append_cancel_right_eq,
    List.append_cancel_left_eq]

/-- In the same number of levels, different types stay different. -/
theorem nested_inj (n : Nat) {l r : String} : nested n l = nested n r ↔ l = r := by
  induction n with
  | zero => exact Iff.rfl
  | succ n ih => rw [nested_succ_inj, ih]

/-- A nested type is an array of `any` only as `any` in one level. -/
theorem nested_succ_eq_anyArray_iff (n : Nat) (type : String) :
    nested (n + 1) type = "array<any>" ↔ n = 0 ∧ type = "any" := by
  have hany : "array<any>" = nested 1 "any" := rfl
  rw [hany, nested_succ_inj]
  cases n with
  | zero => simp
  | succ n => simp [nested_succ_ne_any]

/-! ## Compatibility -/

/-- Types go together if they are the same, if one of them is `any`, or if one is an array of `any`
and the other one an array. -/
theorem compatible_some_iff (l r : String) :
    compatible (some l) (some r) = true ↔ l = r ∨ l = "any" ∨ r = "any" ∨
      (l = "array<any>" ∨ r = "array<any>") ∧ isArray l = true ∧ isArray r = true := by
  have harray : isArray "array<any>" = true := by decide
  by_cases hany : l = "any" ∨ r = "any"
  · have htrue : compatible (some l) (some r) = true := by simp [compatible, hany]
    simp only [htrue, true_iff]
    exact Or.inr (hany.imp_right Or.inl)
  · by_cases hbare : l = "array<any>" ∨ r = "array<any>"
    · have harrays : compatible (some l) (some r) = (isArray l && isArray r) := by
        simp [compatible, hany, hbare]
      rw [harrays, Bool.and_eq_true]
      constructor
      · exact fun h => Or.inr (Or.inr (Or.inr ⟨hbare, h⟩))
      · rintro (rfl | hl | hr | ⟨-, h⟩)
        · rw [or_self] at hbare
          rw [hbare]
          exact ⟨harray, harray⟩
        · exact absurd (Or.inl hl) hany
        · exact absurd (Or.inr hr) hany
        · exact h
    · have hsame : compatible (some l) (some r) = (l == r) := by simp [compatible, hany, hbare]
      rw [hsame, beq_iff_eq]
      tauto

/-- In the same number of levels, types go together if they are the same, if there is no level and
they go together, or if there is one level and one of them is `any`. -/
theorem compatible_nested_iff (n : Nat) (l r : String) :
    compatible (some (nested n l)) (some (nested n r)) = true ↔
      n = 0 ∧ compatible (some l) (some r) = true ∨ l = r ∨ n = 1 ∧ (l = "any" ∨ r = "any") := by
  cases n with
  | zero =>
      have hself : l = r → compatible (some l) (some r) = true := by
        intro hlr
        exact (compatible_some_iff l r).2 (Or.inl hlr)
      simpa using hself
  | succ n =>
      rw [compatible_some_iff]
      simp only [nested_inj, nested_succ_ne_any, nested_succ_eq_anyArray_iff, isArray_nested_succ,
        false_or, and_true, Nat.succ_ne_zero, false_and, Nat.add_eq_right]
      tauto

/-! ## Fields -/

/-- A finding on two shapes says that the types of a field do not go together. -/
def DriftFound (o : Options) (a b : Entity) (field : String) : Prop :=
  ∃ f ∈ validate o [a, b], f.rule = "type-mismatch" ∧ fieldOf f = field

/-- Two shapes of one name that are declared in different places. -/
structure Compared (a b : Entity) : Prop where
  first : IsShape a
  second : IsShape b
  name : groupName a.name = groupName b.name
  home : home a ≠ home b

/-- Two shapes are found to disagree on a field where its types do not go together. -/
theorem drift_found_iff {a b : Entity} (h : Compared a b) (o : Options) (field : String) :
    DriftFound o a b field ↔ Drifts a b field := by
  rw [DriftFound, validate_pair o h.first h.second h.name h.home]
  constructor
  · rintro ⟨f, hf, hrule, rfl⟩
    exact drifts_of_mem_compare hf hrule
  · intro hdrift
    obtain ⟨f, hf, htells⟩ := hdrift.exists_mem_compare o
    exact ⟨f, hf, htells.kind, htells.subject⟩

/-- Two shapes declare a field, with two types that stand in the same number of array levels. -/
structure DeclareNested (n : Nat) (l r : String) (a b : Entity) (field : String) : Prop where
  first : ∃ p, declared? a field = some p ∧ normalize? a.language p.type = some (nested n l)
  second : ∃ q, declared? b field = some q ∧ normalize? b.language q.type = some (nested n r)

/-- Nested declarations drift exactly if the nested types are not compatible. -/
theorem DeclareNested.drifts_iff {n : Nat} {l r : String} {a b : Entity} {field : String}
    (h : DeclareNested n l r a b field) :
    Drifts a b field ↔ compatible (some (nested n l)) (some (nested n r)) = false := by
  obtain ⟨p, hp, hleft⟩ := h.first
  obtain ⟨q, hq, hright⟩ := h.second
  constructor
  · rintro ⟨p', q', hp', hq', hapart⟩
    rw [hp, Option.some.injEq] at hp'
    rw [hq, Option.some.injEq] at hq'
    subst hp' hq'
    rwa [hleft, hright] at hapart
  · intro hapart
    exact ⟨p, q, hp, hq, by rwa [hleft, hright]⟩

/-- Compatible types stay compatible in one array level, unless one is an array of `any` and the
other one another array. -/
theorem compatible_one_level_iff {l r : String} (h : compatible (some l) (some r) = true) :
    compatible (some (nested 1 l)) (some (nested 1 r)) = true ↔
      ¬ (l ≠ r ∧ isArray l = true ∧ isArray r = true ∧ (l = "array<any>" ∨ r = "array<any>")) := by
  have hany : ¬ isArray "any" = true := by decide
  rw [compatible_nested_iff]
  simp only [Nat.one_ne_zero, false_and, false_or, true_and]
  constructor
  · rintro (hlr | rfl | rfl) ⟨hne, hl, hr, -⟩
    · exact hne hlr
    · exact hany hl
    · exact hany hr
  · intro hbeside
    rcases (compatible_some_iff l r).1 h with hlr | hl | hr | ⟨hbare, hl, hr⟩
    · exact Or.inl hlr
    · exact Or.inr (Or.inl hl)
    · exact Or.inr (Or.inr hr)
    · by_cases hlr : l = r
      · exact Or.inl hlr
      · exact absurd ⟨hlr, hl, hr, hbare⟩ hbeside

/-- Two shapes are found to disagree on a field of compatible types in a number of levels if the
types are different and either there is more than one level or none of the types is `any`. -/
theorem DeclareNested.driftFound_iff {n : Nat} {l r : String} {a b : Entity} {field : String}
    (hdeclare : DeclareNested n l r a b field) (hcompared : Compared a b)
    (h : compatible (some l) (some r) = true) (o : Options) :
    DriftFound o a b field ↔ 0 < n ∧ l ≠ r ∧ (1 < n ∨ l ≠ "any" ∧ r ≠ "any") := by
  rw [drift_found_iff hcompared, hdeclare.drifts_iff, ← Bool.not_eq_true, compatible_nested_iff]
  simp only [h, and_true]
  constructor
  · intro hnot
    have hpos : n ≠ 0 := fun hn => hnot (Or.inl hn)
    refine ⟨Nat.pos_of_ne_zero hpos, fun hlr => hnot (Or.inr (Or.inl hlr)), ?_⟩
    by_cases hone : n = 1
    · exact Or.inr ⟨fun hl => hnot (Or.inr (Or.inr ⟨hone, Or.inl hl⟩)),
        fun hr => hnot (Or.inr (Or.inr ⟨hone, Or.inr hr⟩))⟩
    · left
      omega
  · rintro ⟨hpos, hne, hdeep⟩ (hn | hlr | ⟨hone, hany⟩)
    · omega
    · exact hne hlr
    · rcases hdeep with hdeep | ⟨hl, hr⟩
      · omega
      · exact hany.elim hl hr

/-- Compatible types stay compatible in one array level, unless one is an array of `any` and the
other one another array.  So two shapes are found to disagree on a field of compatible types in a
number of levels if the types are different and either there is more than one level or none of the
types is `any`. -/
theorem nested_compatible_iff {l r : String} (h : compatible (some l) (some r) = true) :
    (compatible (some (nested 1 l)) (some (nested 1 r)) = true ↔
      ¬ (l ≠ r ∧ isArray l = true ∧ isArray r = true ∧ (l = "array<any>" ∨ r = "array<any>"))) ∧
    ∀ (o : Options) (n : Nat) (a b : Entity) (field : String), Compared a b →
      DeclareNested n l r a b field →
      (DriftFound o a b field ↔ 0 < n ∧ l ≠ r ∧ (1 < n ∨ l ≠ "any" ∧ r ≠ "any")) := by
  refine ⟨compatible_one_level_iff h, ?_⟩
  intro o n a b field hcompared hdeclare
  exact hdeclare.driftFound_iff hcompared h o

/-- The user with a field declares that field. -/
theorem declared?_userWith (language file field type : String) :
    declared? (userWith language file field type) field =
      some { name := field, type := some type } := by
  simp [declared?, Assoc.lastUnder, userWith, shapeNamed]

/-- The type of that field is normalized by its language. -/
theorem normalize?_userWith (language file field type : String) :
    normalize? (userWith language file field type).language (some type) = normalize language type := by
  simp [normalize?, userWith, shapeNamed]

/-- The friends of a user in Python. -/
def pythonFriends (type : String) : Entity :=
  userWith "python" "models.py" "friends" type

/-- The friends of a user in TypeScript. -/
def typescriptFriends (type : String) : Entity :=
  userWith "typescript" "types.ts" "friends" type

/-- The two users are compared with one another. -/
theorem compared_friends (python typescript : String) :
    Compared (pythonFriends python) (typescriptFriends typescript) where
  first := isShape_userWith ..
  second := isShape_userWith ..
  name := congrArg groupName rfl
  home := by
    change ("python", "models.py") ≠ ("typescript", "types.ts")
    decide

/-- The two users declare nested types for their friends. -/
theorem declareNested_friends {n : Nat} {l r python typescript : String}
    (hpython : normalize "python" python = some (nested n l))
    (htypescript : normalize "typescript" typescript = some (nested n r)) :
    DeclareNested n l r (pythonFriends python) (typescriptFriends typescript) "friends" where
  first := ⟨_, declared?_userWith .., (normalize?_userWith ..).trans hpython⟩
  second := ⟨_, declared?_userWith .., (normalize?_userWith ..).trans htypescript⟩

/-- Lists of anything go with lists of users, but lists of such lists do not. -/
theorem nested_compatible_friends :
    compatible (some "any") (some "User") = true ∧
      compatible (some (nested 1 "any")) (some (nested 1 "User")) = true ∧
      ¬ DriftFound {} (pythonFriends "list") (typescriptFriends "User[]") "friends" ∧
      DriftFound {} (pythonFriends "List[list]") (typescriptFriends "User[][]") "friends" := by
  have hany : compatible (some "any") (some "User") = true := by decide
  obtain ⟨hone, hfound⟩ := nested_compatible_iff hany
  refine ⟨hany, hone.2 ?_, ?_, ?_⟩
  · rintro ⟨-, harray, -⟩
    exact absurd harray (by decide)
  · have hdeclare : DeclareNested 1 "any" "User" (pythonFriends "list")
        (typescriptFriends "User[]") "friends" :=
      declareNested_friends (by decide +kernel) (by decide +kernel)
    rw [hfound {} 1 _ _ _ (compared_friends ..) hdeclare]
    simp
  · have hdeclare : DeclareNested 2 "any" "User" (pythonFriends "List[list]")
        (typescriptFriends "User[][]") "friends" :=
      declareNested_friends (by decide +kernel) (by decide +kernel)
    rw [hfound {} 2 _ _ _ (compared_friends ..) hdeclare]
    simp

/-- A list goes with a list of users, but a list of lists does not go with a list of lists of
users, and a field with these types is found. -/
theorem nested_apart_list :
    normalize "python" "list" = some "array<any>" ∧
      normalize "typescript" "User[]" = some "array<User>" ∧
      compatible (some "array<any>") (some "array<User>") = true ∧
      compatible (some "array<array<any>>") (some "array<array<User>>") = false ∧
      DriftFound {} (pythonFriends "List[list]") (typescriptFriends "User[][]") "friends" := by
  have hapart : compatible (some "array<array<any>>") (some "array<array<User>>") = false := by
    decide
  have hpython : normalize "python" "List[list]" = some "array<array<any>>" := by decide +kernel
  have htypescript : normalize "typescript" "User[][]" = some "array<array<User>>" := by
    decide +kernel
  refine ⟨by decide +kernel, by decide +kernel, by decide, hapart, ?_⟩
  refine (drift_found_iff (compared_friends ..) {} "friends").2 ?_
  refine ⟨_, _, declared?_userWith .., declared?_userWith .., ?_⟩
  exact (congrArg₂ compatible ((normalize?_userWith ..).trans hpython)
    ((normalize?_userWith ..).trans htypescript)).trans hapart

end Schema
end CrossAudit
