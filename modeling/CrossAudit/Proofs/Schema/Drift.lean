import CrossAudit.Proofs.Schema.Difference

/-!
# Type drift in a group of shapes

In a group of shapes of one name, every member is compared with the first one and with no other.
Two members whose types of a field do not go together are thus found through the first one: a type
that says something goes together with at most one side of a drift.  They are overlooked if the
first member does not say what type the field has, or if the comparison is left out because a member
is declared where the first one is.

Main results:

- Theorem `validate_eq`: the findings are those on the groups, one group after the other.
- Theorem `mem_validate_members_iff`: what is found in one group.
- Theorem `incompatible_of_definite`: a type that says something does not go together with both
  sides of a drift.
- Theorem `drift_reported_iff`: when a drift is reported.
- Theorem `drift_overlooked`: drifts that are not.
-/

namespace CrossAudit
namespace Schema

/-! ## Groups -/

/-- The shapes of one name, in their order. -/
def members (entities : List Entity) (key : String) : List Entity :=
  entities.filter fun e => groupOf? e == some key

variable {o : Options} {entities : List Entity} {key field : String} {f : Finding}

/-- The members of a group belong to it. -/
theorem groupOf?_of_mem_members {e : Entity} (h : e ∈ members entities key) :
    groupOf? e = some key :=
  beq_iff_eq.1 (List.mem_filter.1 h).2

/-- Groups are taken one after the other, in the order in which their names came. -/
theorem validate_eq_compareGroup (o : Options) (entities : List Entity) :
    validate o entities = (entities.filterMap groupOf?).eraseDups.flatMap fun key =>
      compareGroup o (members entities key) := by
  rw [validate, group, Assoc.group_eq, List.flatMap_map]
  rfl

/-- The names of the members of a group are one name. -/
theorem eraseDups_members (h : members entities key ≠ []) :
    ((members entities key).filterMap groupOf?).eraseDups = [key] := by
  have hkeys : (members entities key).filterMap groupOf? =
      List.replicate (members entities key).length key := by
    rw [← List.map_const', ← List.filterMap_eq_map]
    exact List.filterMap_congr fun e he => groupOf?_of_mem_members he
  obtain ⟨n, hn⟩ := Nat.exists_eq_succ_of_ne_zero (List.length_pos_iff.2 h).ne'
  simp [hkeys, hn, List.replicate_succ, List.eraseDups_cons]

/-- If all entities belong to a group, they are its members. -/
theorem members_eq_self (h : ∀ e ∈ entities, groupOf? e = some key) :
    members entities key = entities :=
  List.filter_eq_self.2 fun e he => beq_iff_eq.2 (h e he)

/-- A group of members is that group. -/
theorem members_members (entities : List Entity) (key : String) :
    members (members entities key) key = members entities key :=
  members_eq_self fun _ he => groupOf?_of_mem_members he

/-- A group may be checked by itself. -/
theorem validate_members (o : Options) (entities : List Entity) (key : String) :
    validate o (members entities key) = compareGroup o (members entities key) := by
  by_cases hnone : members entities key = []
  · rw [hnone]
    rfl
  · rw [validate_eq_compareGroup, eraseDups_members hnone, List.flatMap_singleton,
      members_members]

/-- The findings are those on the groups, one group after the other. -/
theorem validate_eq (o : Options) (entities : List Entity) :
    validate o entities = (entities.filterMap groupOf?).eraseDups.flatMap fun key =>
      validate o (members entities key) := by
  simp only [validate_members]
  exact validate_eq_compareGroup o entities

/-- The findings on a group are found among those on all shapes. -/
theorem mem_validate_of_members (h : f ∈ validate o (members entities key)) :
    f ∈ validate o entities := by
  have hsome : ∃ e, e ∈ members entities key := by
    refine List.exists_mem_of_ne_nil _ ?_
    rintro hnone
    rw [hnone] at h
    cases h
  obtain ⟨e, he⟩ := hsome
  rw [validate_eq, List.mem_flatMap]
  refine ⟨key, List.mem_eraseDups.2 ?_, h⟩
  exact List.mem_filterMap.2 ⟨e, List.mem_of_mem_filter he, groupOf?_of_mem_members he⟩

/-- What is found in a group is found on its first member and one that is declared elsewhere. -/
theorem mem_validate_members_iff :
    f ∈ validate o (members entities key) ↔ ∃ first, (members entities key).head? = some first ∧
      ∃ c ∈ members entities key, home c ≠ home first ∧ f ∈ compare o first c := by
  rw [validate_members]
  cases hms : members entities key with
  | nil => simp [compareGroup]
  | cons first others =>
      simp only [compareGroup, List.mem_flatMap, List.mem_filter, Bool.not_eq_true',
        sameHome_eq_false_iff, List.head?_cons, Option.some.injEq, exists_eq_left',
        List.mem_cons]
      constructor
      · rintro ⟨c, ⟨hc, hhome⟩, hf⟩
        exact ⟨c, Or.inr hc, hhome, hf⟩
      · rintro ⟨c, rfl | hc, hhome, hf⟩
        · exact absurd rfl hhome
        · exact ⟨c, ⟨hc, hhome⟩, hf⟩

/-! ## Types that say something -/

/-- A type that is given, and is neither `any` nor an array of it. -/
def Definite (type : Option String) : Prop :=
  ∃ t, type = some t ∧ t ≠ "any" ∧ t ≠ "array<any>"

/-- A type that says something does not go together with both sides of a drift. -/
theorem incompatible_of_definite {t l r : Option String} (ht : Definite t)
    (h : compatible l r = false) : compatible t l = false ∨ compatible t r = false := by
  obtain ⟨t, rfl, hany, harray⟩ := ht
  have hisArray : isArray "array<any>" = true := by decide
  cases l with
  | none => cases h
  | some l =>
      cases r with
      | none => cases h
      | some r => grind [compatible]

/-! ## Reports -/

/-- Two shapes of a group are reported to give a field types that do not go together. -/
def Reported (o : Options) (entities : List Entity) (key field : String) : Prop :=
  ∃ f ∈ validate o (members entities key), f ∈ validate o entities ∧
    ∃ target ∈ members entities key, ∃ other ∈ members entities key, home target ≠ home other ∧
      Tells f "type-mismatch" o.driftSeverity field target other

/-- A drift is reported if a later member in another place drifts from the first one. -/
theorem reported_iff : Reported o entities key field ↔
    ∃ first, (members entities key).head? = some first ∧
      ∃ c ∈ members entities key, home c ≠ home first ∧ Drifts first c field := by
  constructor
  · rintro ⟨f, hf, -, _, -, _, -, -, htells⟩
    obtain ⟨first, hfirst, c, hc, hhome, hf⟩ := mem_validate_members_iff.1 hf
    have hdrift := drifts_of_mem_compare hf htells.kind
    rw [htells.subject] at hdrift
    exact ⟨first, hfirst, c, hc, hhome, hdrift⟩
  · rintro ⟨first, hfirst, c, hc, hhome, hdrift⟩
    obtain ⟨f, hf, htells⟩ := hdrift.exists_mem_compare o
    have hmem : f ∈ validate o (members entities key) :=
      mem_validate_members_iff.2 ⟨first, hfirst, c, hc, hhome, hf⟩
    exact ⟨f, hmem, mem_validate_of_members hmem, c, hc, first, List.mem_of_head? hfirst, hhome,
      htells⟩

/-- The first member of a group gives a field a type that says something, in a place of its own. -/
def FirstSays (entities : List Entity) (key field : String) (x y : Entity) : Prop :=
  ∃ first p, (members entities key).head? = some first ∧ declared? first field = some p ∧
    Definite (normalize? first.language p.type) ∧ home x ≠ home first ∧ home y ≠ home first

/-- A drift from the first member is reported. -/
theorem reported_of_head {x y : Entity} (hx : (members entities key).head? = some x)
    (hy : y ∈ members entities key) (hhome : home y ≠ home x) (hdrift : Drifts x y field) :
    Reported o entities key field :=
  reported_iff.2 ⟨x, hx, y, hy, hhome, hdrift⟩

/-- A drift is reported if the first member says what type the field has: it drifts from one of the
two sides itself. -/
theorem reported_of_firstSays {x y : Entity} (hx : x ∈ members entities key)
    (hy : y ∈ members entities key) (hdrift : Drifts x y field)
    (hfirst : FirstSays entities key field x y) : Reported o entities key field := by
  obtain ⟨first, p, hhead, hp, hdefinite, hxhome, hyhome⟩ := hfirst
  obtain ⟨q, r, hq, hr, hcompatible⟩ := hdrift
  cases incompatible_of_definite hdefinite hcompatible with
  | inl hleft => exact reported_of_head hhead hx hxhome ⟨p, q, hp, hq, hleft⟩
  | inr hright => exact reported_of_head hhead hy hyhome ⟨p, r, hp, hr, hright⟩

/-- A field is reported if some member in another place drifts from the first one, and only then.
So a drift between two members is reported if one of them is the first, or if the first one says
what type the field has in a place apart from both. -/
theorem drift_reported_iff (o : Options) (entities : List Entity) (key field : String) :
    (Reported o entities key field ↔
      ∃ first, (members entities key).head? = some first ∧
        ∃ c ∈ members entities key, home c ≠ home first ∧ Drifts first c field) ∧
    ∀ x ∈ members entities key, ∀ y ∈ members entities key, home x ≠ home y → Drifts x y field →
      (members entities key).head? = some x ∨ (members entities key).head? = some y ∨
        FirstSays entities key field x y →
      Reported o entities key field := by
  refine ⟨reported_iff, ?_⟩
  rintro x hx y hy hhome hdrift (hfirst | hfirst | hfirst)
  · exact reported_of_head hfirst hy hhome.symm hdrift
  · exact reported_of_head hfirst hx hhome hdrift.symm
  · exact reported_of_firstSays hx hy hdrift hfirst

/-- A user with one field. -/
def userWith (language file field type : String) : Entity :=
  shapeNamed "User" language file [{ name := field, type := some type }]

/-- The user with a field is a shape. -/
theorem isShape_userWith (language file field type : String) :
    IsShape (userWith language file field type) := by
  have hname : groupName "User" = "user" := by decide +kernel
  exact ⟨by simp [userWith, shapeNamed, shapeTypes], by simp [userWith, shapeNamed],
    by simp [userWith, shapeNamed, hname]⟩

/-- All these users are in one group. -/
theorem groupOf?_userWith (language file field type : String) :
    groupOf? (userWith language file field type) = some "user" := by
  have hname : groupName "User" = "user" := by decide +kernel
  rw [(isShape_userWith language file field type).groupOf?_eq]
  simp [userWith, shapeNamed, hname]

/-- Three users: after the given one, a number and a truth value are the identifiers. -/
def usersAfter (first : Entity) : List Entity :=
  [first, userWith "typescript" "types.ts" "id" "number", userWith "go" "user.go" "id" "bool"]

/-- The users behind a first one are all in its group. -/
theorem members_usersAfter {first : Entity} (h : groupOf? first = some "user") :
    members (usersAfter first) "user" = usersAfter first :=
  members_eq_self (by simp [usersAfter, h, groupOf?_userWith])

/-- A number and a truth value are a drift. -/
theorem drifts_id : Drifts (userWith "typescript" "types.ts" "id" "number")
    (userWith "go" "user.go" "id" "bool") "id" :=
  ⟨_, _, rfl, rfl, by decide +kernel⟩

/-- A number and a truth value are told apart by a first identifier that is a text. -/
theorem drift_reported_user :
    Reported {} (usersAfter (userWith "python" "models.py" "id" "str")) "user" "id" := by
  have hmembers := members_usersAfter (groupOf?_userWith "python" "models.py" "id" "str")
  have hfirst : FirstSays (usersAfter (userWith "python" "models.py" "id" "str")) "user" "id"
      (userWith "typescript" "types.ts" "id" "number") (userWith "go" "user.go" "id" "bool") := by
    rw [FirstSays, hmembers]
    exact ⟨_, _, rfl, rfl, ⟨"string", by decide +kernel, by decide, by decide⟩, by decide, by decide⟩
  refine (drift_reported_iff {} _ "user" "id").2 _ ?_ _ ?_ (by decide) drifts_id
    (Or.inr (Or.inr hfirst))
  · rw [hmembers]
    simp [usersAfter]
  · rw [hmembers]
    simp [usersAfter]

/-- Two shapes of a group in different places give a field types that do not go together, and no
finding says so. -/
def Overlooked (o : Options) (entities : List Entity) (key field : String) : Prop :=
  ∃ x ∈ members entities key, ∃ y ∈ members entities key, home x ≠ home y ∧ Drifts x y field ∧
    ∀ f ∈ validate o entities, ¬ (f.rule = "type-mismatch" ∧ fieldOf f = field)

/-- Without a finding, the drift between the two later users is overlooked. -/
theorem overlooked_usersAfter {first : Entity} (hgroup : groupOf? first = some "user")
    (h : ∀ f ∈ validate {} (usersAfter first), ¬ (f.rule = "type-mismatch" ∧ fieldOf f = "id")) :
    Overlooked {} (usersAfter first) "user" "id" := by
  rw [Overlooked, members_usersAfter hgroup]
  exact ⟨_, by simp [usersAfter], _, by simp [usersAfter], by decide, drifts_id, h⟩

/-- A drift is overlooked if the first member takes any type, if it does not have the field, or if
one side of the drift is declared where the first member is. -/
theorem drift_overlooked :
    Overlooked {} (usersAfter (userWith "python" "models.py" "id" "Any")) "user" "id" ∧
    Overlooked {} (usersAfter (userWith "python" "models.py" "mail" "str")) "user" "id" ∧
    Overlooked {} (usersAfter (userWith "go" "user.go" "id" "int")) "user" "id" :=
  ⟨overlooked_usersAfter (groupOf?_userWith ..) (by decide +kernel),
    overlooked_usersAfter (groupOf?_userWith ..) (by decide +kernel),
    overlooked_usersAfter (groupOf?_userWith ..) (by decide +kernel)⟩

end Schema
end CrossAudit
