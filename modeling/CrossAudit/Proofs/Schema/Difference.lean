import CrossAudit.Proofs.Assoc
import CrossAudit.Schema.Consistency

/-!
# Differences between two shapes

Two shapes are compared in two passes, one over the fields of each.  Taken field by field, the
outcome is one of five: both have the field and its types go together, or they do not; one of them
lacks a field that the other requires; the second one adds an optional field; or nothing is to be
said.  Apart from what is added, the outcome is the same from both sides.

Main results:

- Theorem `lookup_fields`: the declaration of a field that counts is the last one.
- Theorem `exists_typeDrift_eq`, `tells_missing`: what the findings on a field say.
- Theorem `filter_compare`: the findings on two shapes, field by field.
- Theorem `drifts_of_mem_compare`, `Drifts.exists_mem_compare`: types are found not to go together
  where they do not.
- Theorem `difference_exact`: what is found on two shapes, and that it is found from both sides.
-/

namespace CrossAudit
namespace Schema

/-! ## Fields -/

/-- The declaration of a field that counts: the last one of its name. -/
def declared? (e : Entity) (field : String) : Option Property :=
  Assoc.lastUnder (·.name) e.properties field

/-- The fields of a shape are its properties, the last one under each name. -/
theorem fields_eq (e : Entity) : fields e = Assoc.latest (·.name) [] e.properties := by
  rw [fields, Assoc.ofPairs, List.foldl_map]
  rfl

/-- Looking up a field finds what the shape declares under the name. -/
theorem lookup_fields (e : Entity) (field : String) : (fields e).lookup field = declared? e field := by
  rw [fields_eq, Assoc.lookup_latest, declared?]

/-- Every field stands once. -/
theorem nodup_keys_fields (e : Entity) : ((fields e).map (·.1)).Nodup := by
  rw [fields_eq]
  exact Assoc.nodup_keys_latest (·.name) e.properties

/-! ## Findings -/

/-- The field that a finding is about.  A field without a name is not noted. -/
def fieldOf (f : Finding) : String :=
  match f.details.lookup "field" with
  | some (.str field) => field
  | _ => ""

/-- What a finding says, and about which field. -/
def verdict (f : Finding) : String × String × String :=
  (f.rule, f.severity, fieldOf f)

/-- How grave it is that the types of a field do not go together. -/
def Options.driftSeverity (o : Options) : String :=
  if o.strictTypes then "critical" else "warning"

/-- A finding on a field, at the place where one of two shapes is declared. -/
structure Tells (f : Finding) (rule severity field : String) (target other : Entity) : Prop where
  kind : f.rule = rule
  grade : f.severity = severity
  subject : fieldOf f = field
  file : f.file = target.file
  line : f.line = .int target.startLine
  link : f.link = some
    { crossType := rule
      relatedFiles := distinct [target.file, other.file]
      relatedLanguages := distinct [target.language, other.language] }

/-- A finding tells what it is made from. -/
theorem tells_finding {details : List (String × Json)} (h : details.lookup "field" = none)
    (target other : Entity) (rule severity message : String) (fix : Option String)
    (field : String) :
    Tells (finding target other rule severity message fix field details) rule severity field
      target other := by
  refine ⟨rfl, rfl, ?_, rfl, rfl, rfl⟩
  by_cases hfield : field = "" <;> simp [fieldOf, finding, hfield, List.lookup_append, h]

/-- A missing field is told by the shape that lacks it. -/
theorem tells_missing (target owner : Entity) (field : String) :
    Tells (missing target owner field) "missing-field" "warning" field target owner :=
  tells_finding rfl ..

/-! ## One field -/

/-- Two shapes give a field types that do not go together. -/
def Drifts (a b : Entity) (field : String) : Prop :=
  ∃ p q, declared? a field = some p ∧ declared? b field = some q ∧
    compatible (normalize? a.language p.type) (normalize? b.language q.type) = false

/-- A shape has no field that another one requires. -/
def Lacks (a b : Entity) (field : String) : Prop :=
  declared? a field = none ∧ ∃ q, declared? b field = some q ∧ q.optional = false

/-- A shape adds an optional field to another one. -/
def Adds (a b : Entity) (field : String) : Prop :=
  declared? a field = none ∧ ∃ q, declared? b field = some q ∧ q.optional = true

/-- Whether two types are compatible does not depend on their order. -/
theorem compatible_comm (l r : Option String) : compatible l r = compatible r l := by
  cases l with
  | none => cases r <;> rfl
  | some l =>
      cases r with
      | none => rfl
      | some r =>
          simp only [compatible, Bool.or_comm (l == "any"), Bool.or_comm (l == "array<any>"),
            Bool.and_comm (isArray l), BEq.comm (a := l) (b := r)]

/-- If one shape drifts from another, so does the other from it. -/
theorem Drifts.symm {a b : Entity} {field : String} (h : Drifts a b field) : Drifts b a field := by
  obtain ⟨p, q, hp, hq, hcompatible⟩ := h
  exact ⟨q, p, hq, hp, by rwa [compatible_comm]⟩

/-- The finding that a shape adds an optional field to another one. -/
def extra (target other : Entity) (field : String) : Finding :=
  finding target other "extra-field" "suggestion"
    s!"Field '{field}' exists only in {target.name} ({target.language})" none field []

/-- What is found on a field. -/
def findingsAt (o : Options) (a b : Entity) (field : String) : List Finding :=
  match declared? a field, declared? b field with
  | some p, some q => typeDrift o a b field p q
  | some p, none => if p.optional then [] else [missing b a field]
  | none, some q =>
    if !q.optional then [missing a b field]
    else if !o.allowAdditional then [extra b a field]
    else []
  | none, none => []

/-- A drift of types is told with the field it is about. -/
theorem fieldOf_of_mem_typeDrift {o : Options} {a b : Entity} {field : String} {p q : Property}
    {f : Finding} (h : f ∈ typeDrift o a b field p q) : fieldOf f = field := by
  unfold typeDrift at h
  dsimp only at h
  split at h
  · cases h
  · rw [List.mem_singleton.1 h]
    exact (tells_finding rfl ..).subject

/-- A missing field is told with its name. -/
theorem fieldOf_missing (target owner : Entity) (field : String) :
    fieldOf (missing target owner field) = field :=
  (tells_missing target owner field).subject

/-- An extra field is told with its name. -/
theorem fieldOf_extra (target other : Entity) (field : String) :
    fieldOf (extra target other field) = field :=
  (tells_finding rfl ..).subject

/-- The first pass, field by field. -/
theorem filter_compareForward (o : Options) (a b : Entity) (field : String) :
    (compareForward o a b).filter (fun f => fieldOf f == field) =
      if (declared? a field).isSome then findingsAt o a b field else [] := by
  rw [compareForward, Assoc.filter_flatMap_of_marked (nodup_keys_fields a) ?_]
  · simp only [lookup_fields, findingsAt]
    cases declared? a field <;> cases declared? b field <;> rfl
  · rintro ⟨name, p⟩ f hf
    dsimp only at hf
    split at hf
    · exact fieldOf_of_mem_typeDrift hf
    · split at hf
      · cases hf
      · rw [List.mem_singleton.1 hf, fieldOf_missing]

/-- The second pass, field by field. -/
theorem filter_compareBackward (o : Options) (a b : Entity) (field : String) :
    (compareBackward o a b).filter (fun f => fieldOf f == field) =
      if (declared? a field).isSome then [] else findingsAt o a b field := by
  have hkeys : (((fields b).filter fun f => ((fields a).lookup f.1).isNone).map (·.1)).Nodup :=
    (nodup_keys_fields b).sublist (List.filter_sublist.map _)
  have hlookup := Assoc.lookup_filter (fun name => ((fields a).lookup name).isNone) (fields b) field
  rw [compareBackward, Assoc.filter_flatMap_of_marked hkeys ?_, hlookup]
  · simp only [lookup_fields, findingsAt]
    cases declared? a field <;> cases declared? b field <;> rfl
  · rintro ⟨name, q⟩ f hf
    dsimp only at hf
    split at hf
    · rw [List.mem_singleton.1 hf, fieldOf_missing]
    · split at hf
      · rw [List.mem_singleton.1 hf]
        exact fieldOf_extra b a name
      · cases hf

/-- The findings on two shapes, field by field. -/
theorem filter_compare (o : Options) (a b : Entity) (field : String) :
    (compare o a b).filter (fun f => fieldOf f == field) = findingsAt o a b field := by
  rw [compare, List.filter_append, filter_compareForward, filter_compareBackward]
  split
  · rw [List.append_nil]
  · rw [List.nil_append]

/-! ## Two shapes -/

/-- A data shape that is compared: it has fields, and a name of its own. -/
structure IsShape (e : Entity) : Prop where
  kind : e.type ∈ shapeTypes
  fields_ne : e.properties ≠ []
  name_ne : groupName e.name ≠ ""

/-- A shape belongs to the group of its name. -/
theorem IsShape.groupOf?_eq {e : Entity} (h : IsShape e) : groupOf? e = some (groupName e.name) := by
  simp [groupOf?, h.kind, h.fields_ne, h.name_ne]

/-- The place where a shape is declared. -/
def home (e : Entity) : String × String :=
  (e.language, e.file)

/-- Two shapes are not at home together exactly if their homes differ. -/
theorem sameHome_eq_false_iff {a b : Entity} : sameHome a b = false ↔ home a ≠ home b := by
  rw [← Bool.not_eq_true, sameHome, Bool.and_eq_true, beq_iff_eq, beq_iff_eq, home, home, ne_eq,
    Prod.mk.injEq]

/-- Two shapes of one name that are declared in different places are compared, the second one with
the first. -/
theorem validate_pair (o : Options) {a b : Entity} (ha : IsShape a) (hb : IsShape b)
    (hname : groupName a.name = groupName b.name) (hhome : home a ≠ home b) :
    validate o [a, b] = compare o a b := by
  have hgroup : group [a, b] = [(groupName a.name, [a, b])] := by
    simp [group, Assoc.group_eq, ha.groupOf?_eq, hb.groupOf?_eq, ← hname, List.eraseDups_cons]
  have hapart : sameHome b a = false := sameHome_eq_false_iff.2 hhome.symm
  simp [validate, hgroup, compareGroup, hapart]

/-- What is found on a field of two shapes: one finding at the second shape if the types do not go
together, one at the shape that lacks the field if the other one requires it, one at the second
shape if it adds an optional field and must not, and nothing else. -/
structure Differs (o : Options) (a b : Entity) (field : String) (found : List Finding) : Prop where
  drift : Drifts a b field →
    ∃ f, found = [f] ∧ Tells f "type-mismatch" o.driftSeverity field b a
  first_lacks : Lacks a b field → ∃ f, found = [f] ∧ Tells f "missing-field" "warning" field a b
  second_lacks : Lacks b a field → ∃ f, found = [f] ∧ Tells f "missing-field" "warning" field b a
  second_adds : Adds a b field → o.allowAdditional = false →
    ∃ f, found = [f] ∧ Tells f "extra-field" "suggestion" field b a
  otherwise : ¬ Drifts a b field → ¬ Lacks a b field → ¬ Lacks b a field →
    ¬ (Adds a b field ∧ o.allowAdditional = false) → found = []

/-- Compatible types are no drift. -/
theorem typeDrift_of_compatible {o : Options} {a b : Entity} {p q : Property} (field : String)
    (h : compatible (normalize? a.language p.type) (normalize? b.language q.type) = true) :
    typeDrift o a b field p q = [] := by
  simp [typeDrift, h]

/-- Types that are not compatible are told as one drift. -/
theorem exists_typeDrift_eq (o : Options) {a b : Entity} {p q : Property} (field : String)
    (h : compatible (normalize? a.language p.type) (normalize? b.language q.type) = false) :
    ∃ f, typeDrift o a b field p q = [f] ∧
      Tells f "type-mismatch" o.driftSeverity field b a := by
  simp only [typeDrift, h, Bool.false_eq_true, if_false]
  exact ⟨_, rfl, tells_finding rfl ..⟩

/-- What is found at a field says how the two shapes differ there. -/
theorem differs_findingsAt (o : Options) (a b : Entity) (field : String) :
    Differs o a b field (findingsAt o a b field) where
  drift := by
    rintro ⟨p, q, hp, hq, hcompatible⟩
    simp only [findingsAt, hp, hq]
    exact exists_typeDrift_eq o field hcompatible
  first_lacks := by
    rintro ⟨hnone, q, hq, hrequired⟩
    exact ⟨missing a b field, by simp [findingsAt, hnone, hq, hrequired], tells_missing a b field⟩
  second_lacks := by
    rintro ⟨hnone, p, hp, hrequired⟩
    exact ⟨missing b a field, by simp [findingsAt, hnone, hp, hrequired], tells_missing b a field⟩
  second_adds := by
    rintro ⟨hnone, q, hq, hoptional⟩ hforbidden
    exact ⟨extra b a field, by simp [findingsAt, hnone, hq, hoptional, hforbidden],
      tells_finding rfl ..⟩
  otherwise := by
    intro hdrift hfirst hsecond hadds
    cases hp : declared? a field with
    | some p =>
        cases hq : declared? b field with
        | some q =>
            simp only [findingsAt, hp, hq]
            refine typeDrift_of_compatible field ?_
            rw [← Bool.not_eq_false]
            exact fun hcompatible => hdrift ⟨p, q, hp, hq, hcompatible⟩
        | none =>
            have hoptional : p.optional = true := by
              rw [← Bool.not_eq_false]
              exact fun hrequired => hsecond ⟨hq, p, hp, hrequired⟩
            simp [findingsAt, hp, hq, hoptional]
    | none =>
        cases hq : declared? b field with
        | some q =>
            have hoptional : q.optional = true := by
              rw [← Bool.not_eq_false]
              exact fun hrequired => hfirst ⟨hp, q, hq, hrequired⟩
            have hallowed : o.allowAdditional = true := by
              rw [← Bool.not_eq_false]
              exact fun hforbidden => hadds ⟨⟨hp, q, hq, hoptional⟩, hforbidden⟩
            simp [findingsAt, hp, hq, hoptional, hallowed]
        | none => simp [findingsAt, hp, hq]

/-- Types are only found not to go together where they do not. -/
theorem Differs.drifts_of_mem {o : Options} {a b : Entity} {field : String} {found : List Finding}
    (h : Differs o a b field found) {f : Finding} (hf : f ∈ found) (hrule : f.rule = "type-mismatch") :
    Drifts a b field := by
  have hother : ∀ {rule severity : String} {target other : Entity}, rule ≠ "type-mismatch" →
      (∃ f, found = [f] ∧ Tells f rule severity field target other) → False := by
    rintro rule severity target other hne ⟨g, rfl, htells⟩
    rw [List.mem_singleton.1 hf] at hrule
    exact hne (htells.kind.symm.trans hrule)
  by_contra hdrift
  by_cases hfirst : Lacks a b field
  · exact hother (by decide) (h.first_lacks hfirst)
  · by_cases hsecond : Lacks b a field
    · exact hother (by decide) (h.second_lacks hsecond)
    · by_cases hadds : Adds a b field ∧ o.allowAdditional = false
      · exact hother (by decide) (h.second_adds hadds.1 hadds.2)
      · rw [h.otherwise hdrift hfirst hsecond hadds] at hf
        cases hf

/-- Every mismatch that is told is a drift. -/
theorem drifts_of_mem_compare {o : Options} {a b : Entity} {f : Finding} (hf : f ∈ compare o a b)
    (hrule : f.rule = "type-mismatch") : Drifts a b (fieldOf f) := by
  have hdiffers := differs_findingsAt o a b (fieldOf f)
  rw [← filter_compare] at hdiffers
  exact hdiffers.drifts_of_mem (List.mem_filter.2 ⟨hf, beq_self_eq_true _⟩) hrule

/-- Types that do not go together are found, at the second shape. -/
theorem Drifts.exists_mem_compare {a b : Entity} {field : String} (h : Drifts a b field)
    (o : Options) :
    ∃ f ∈ compare o a b, Tells f "type-mismatch" o.driftSeverity field b a := by
  have hdiffers := differs_findingsAt o a b field
  rw [← filter_compare] at hdiffers
  obtain ⟨f, hfound, htells⟩ := hdiffers.drift h
  have hf : f ∈ (compare o a b).filter fun f => fieldOf f == field := by
    rw [hfound]
    exact List.mem_singleton_self f
  exact ⟨f, List.mem_of_mem_filter hf, htells⟩

/-! ## Both sides -/

/-- The verdict of a finding is what it tells. -/
theorem Tells.verdict_eq {f : Finding} {rule severity field : String} {target other : Entity}
    (h : Tells f rule severity field target other) : verdict f = (rule, severity, field) := by
  rw [verdict, h.kind, h.grade, h.subject]

/-- What is said about a field is found among the findings on it. -/
theorem mem_verdicts_iff {o : Options} {a b : Entity} {v : String × String × String} :
    v ∈ (compare o a b).map verdict ↔ v ∈ (findingsAt o a b v.2.2).map verdict := by
  rw [← filter_compare, List.mem_map, List.mem_map]
  constructor
  · rintro ⟨f, hf, rfl⟩
    exact ⟨f, List.mem_filter.2 ⟨hf, beq_self_eq_true (fieldOf f)⟩, rfl⟩
  · rintro ⟨f, hf, rfl⟩
    exact ⟨f, List.mem_of_mem_filter hf, rfl⟩

/-- From the other side the same is said about a field, apart from what is added. -/
theorem mem_verdicts_findingsAt_of_swap {o : Options} {a b : Entity} {field : String}
    {v : String × String × String} (hv : v.1 ≠ "extra-field")
    (h : v ∈ (findingsAt o a b field).map verdict) : v ∈ (findingsAt o b a field).map verdict := by
  have hthis := differs_findingsAt o a b field
  have hthat := differs_findingsAt o b a field
  have hsame : ∀ {rule severity : String} {target other target' other' : Entity},
      (∃ f, findingsAt o a b field = [f] ∧ Tells f rule severity field target other) →
      (∃ f, findingsAt o b a field = [f] ∧ Tells f rule severity field target' other') →
      v ∈ (findingsAt o b a field).map verdict := by
    rintro rule severity target other target' other' ⟨f, hf, htells⟩ ⟨f', hf', htells'⟩
    rw [hf] at h
    rwa [hf', List.map_singleton, htells'.verdict_eq, ← htells.verdict_eq, ← List.map_singleton]
  by_cases hdrift : Drifts a b field
  · exact hsame (hthis.drift hdrift) (hthat.drift hdrift.symm)
  · by_cases hfirst : Lacks a b field
    · exact hsame (hthis.first_lacks hfirst) (hthat.second_lacks hfirst)
    · by_cases hsecond : Lacks b a field
      · exact hsame (hthis.second_lacks hsecond) (hthat.first_lacks hsecond)
      · by_cases hadds : Adds a b field ∧ o.allowAdditional = false
        · obtain ⟨f, hf, htells⟩ := hthis.second_adds hadds.1 hadds.2
          rw [hf, List.map_singleton, List.mem_singleton, htells.verdict_eq] at h
          exact absurd (congrArg (·.1) h) hv
        · rw [hthis.otherwise hdrift hfirst hsecond hadds] at h
          cases h

/-- What is found on two shapes of one name in different places, field by field; and what is said
about fields whose types do not go together or that are missing does not depend on which of the two
comes first. -/
theorem difference_exact (o : Options) {a b : Entity} (ha : IsShape a) (hb : IsShape b)
    (hname : groupName a.name = groupName b.name) (hhome : home a ≠ home b) :
    (∀ field, Differs o a b field ((validate o [a, b]).filter fun f => fieldOf f == field)) ∧
    ∀ v : String × String × String, v.1 ≠ "extra-field" →
      (v ∈ (validate o [a, b]).map verdict ↔ v ∈ (validate o [b, a]).map verdict) := by
  rw [validate_pair o ha hb hname hhome, validate_pair o hb ha hname.symm hhome.symm]
  constructor
  · intro field
    rw [filter_compare]
    exact differs_findingsAt o a b field
  · intro v hv
    rw [mem_verdicts_iff, mem_verdicts_iff]
    exact ⟨mem_verdicts_findingsAt_of_swap hv, mem_verdicts_findingsAt_of_swap hv⟩

/-- A shape with the given fields. -/
def shapeNamed (name language file : String) (properties : List Property) : Entity :=
  { id := name, name := name, language := language, file := file, type := "interface"
    startLine := 3, endLine := 9, properties := properties }

/-- A shape that declares its identifier twice, and requires an address. -/
def userModel : Entity :=
  shapeNamed "UserModel" "python" "models.py" [{ name := "id", type := some "int" },
    { name := "mail", type := some "str" }, { name := "id", type := some "Optional[str]" }]

/-- A shape of the same name with a numeric identifier, and a picture that may be missing. -/
def userResponse : Entity :=
  shapeNamed "user_response" "typescript" "types.ts" [{ name := "id", type := some "number" },
    { name := "picture", type := some "string", optional := true }]

/-- The later declaration of the identifier does not go with the other shape's, and the address is
missing, whichever of the two comes first. -/
theorem difference_exact_user :
    IsShape userModel ∧ IsShape userResponse ∧
      (∃ f, ((validate {} [userModel, userResponse]).filter fun f => fieldOf f == "id") = [f] ∧
        Tells f "type-mismatch" "critical" "id" userResponse userModel) ∧
      (("missing-field", "warning", "mail") ∈ (validate {} [userModel, userResponse]).map verdict ↔
        ("missing-field", "warning", "mail") ∈
          (validate {} [userResponse, userModel]).map verdict) := by
  have hmodel : IsShape userModel := ⟨by decide, by decide, by decide +kernel⟩
  have hresponse : IsShape userResponse := ⟨by decide, by decide, by decide +kernel⟩
  have hdrift : Drifts userModel userResponse "id" := ⟨_, _, rfl, rfl, by decide +kernel⟩
  obtain ⟨hexact, hswap⟩ :=
    difference_exact {} hmodel hresponse (by decide +kernel) (by decide)
  exact ⟨hmodel, hresponse, (hexact "id").drift hdrift, hswap _ (by decide)⟩

end Schema
end CrossAudit
