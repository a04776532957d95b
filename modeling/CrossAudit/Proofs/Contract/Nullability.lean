import CrossAudit.Entity.Extraction
import CrossAudit.Proofs.Contract.Agreement
import CrossAudit.Proofs.Http.Union

/-!
# Nullable response types

Whether a request and its endpoint agree on the response is a matter of the shapes of two declared
types.  A declared type that is made nullable has to keep its shape for that, and it does unless it
is a wrapper around a type of another shape than the wrapper is written with.

Main results:

- Theorem `mismatchFound_iff`: when a request and its endpoint are found to disagree.
- Theorem `mismatchFound_expecting_returning_iff`: the same for two declared types.
- Theorem `nullable_agrees_iff`: when a nullable type has the shape of the type, and the same
  requests and endpoints are found to disagree.
- Theorem `nullable_promise_differs`: a wrapper that a union turns into an object.
-/

namespace CrossAudit
namespace Contract

open Http

/-! ## Declared types -/

/-- A request that expects a type of response. -/
def expecting (call : CallSite) (type : String) : CallSite :=
  { call with expectedType := .str type }

/-- An endpoint that declares a type of response, in its contract too if it has one. -/
def returning (e : Entity) (type : String) : Entity :=
  { e with
    returnType := some type
    apiContract := e.apiContract.map fun contract =>
      { contract with response := Extraction.bodySchema (some type) } }

theorem expectedKind_expecting (call : CallSite) (type : String) :
    expectedKind (expecting call type).expectedType = .ok (typeShape type) :=
  rfl

theorem type_bodySchema (type : String) :
    (Extraction.bodySchema (some type)).map TypeSchema.type = typeShape type := by
  rw [Extraction.bodySchema, typeShape?, Option.bind_some, Option.map_map]
  cases typeShape type with
  | none => rfl
  | some shape =>
      by_cases h : shape = "array" <;> simp [h, TypeSchema.type]

theorem responseKind_returning (e : Entity) (type : String) :
    responseKind (returning e type) = typeShape type := by
  have hbody := type_bodySchema type
  cases hcontract : e.apiContract with
  | none => simp [responseKind, returning, hcontract, typeShape?]
  | some contract =>
      rw [← hbody]
      cases hschema : Extraction.bodySchema (some type) with
      | none =>
          rw [hschema] at hbody
          simp [responseKind, returning, hcontract, hschema, typeShape?, ← hbody]
      | some schema => simp [responseKind, returning, hcontract, hschema]

/-! ## Mismatches -/

/-- Two shapes that are known are different. -/
def Apart (provided expected : Option String) : Prop :=
  ∃ p x, provided = some p ∧ expected = some x ∧ p ≠ "" ∧ p ≠ x

/-- A request and its endpoint are found to disagree on the response. -/
def MismatchFound (call : CallSite) (e : Entity) : Prop :=
  ∃ fs, check (call, some (e, .full)) = .ok fs ∧
    ∃ f ∈ fs, f.rule = "type-mismatch" ∧ f.severity = "critical"

theorem exists_mem_typeMismatch_iff (call : CallSite) (e : Entity)
    {provided expected : Option String} :
    (∃ f ∈ typeMismatch call e provided expected,
      f.rule = "type-mismatch" ∧ f.severity = "critical") ↔ Apart provided expected := by
  cases provided with
  | none => simp [typeMismatch, Apart]
  | some p =>
      cases expected with
      | none => simp [typeMismatch, Apart]
      | some x =>
          by_cases h : p = "" ∨ p = x
          · have hnot : ¬ (p ≠ "" ∧ p ≠ x) := by tauto
            simp [typeMismatch, Apart, h, hnot]
          · have hboth : p ≠ "" ∧ p ≠ x := by tauto
            simp [typeMismatch, Apart, hboth, finding]

/-- A request and its endpoint are found to disagree if the expected and the provided shape are
known and different. -/
theorem mismatchFound_iff {call : CallSite} {e : Entity} : MismatchFound call e ↔
    ∃ expected, expectedKind call.expectedType = .ok expected ∧ Apart (responseKind e) expected := by
  constructor
  · rintro ⟨fs, hcheck, f, hf, hrule, hseverity⟩
    rw [check, bind_eq_ok_iff] at hcheck
    obtain ⟨expected, hexpected, hfs⟩ := hcheck
    cases hfs
    have hmem : f ∈ typeMismatch call e (responseKind e) expected := by
      rcases List.mem_append.1 hf with hf | hf
      · rcases List.mem_append.1 hf with hf | hf
        · exact hf
        · exact absurd (hrule.symm.trans (rule_of_mem_deprecation hf)) (by decide)
      · exact absurd (hrule.symm.trans (rule_of_mem_missingAuth hf)) (by decide)
    exact ⟨expected, hexpected, (exists_mem_typeMismatch_iff call e).1 ⟨f, hmem, hrule, hseverity⟩⟩
  · rintro ⟨expected, hexpected, hapart⟩
    obtain ⟨f, hf, hrule⟩ := (exists_mem_typeMismatch_iff call e).2 hapart
    refine ⟨_, ?_, f, List.mem_append_left (missingAuth call e)
      (List.mem_append_left (deprecation call e) hf), hrule⟩
    rw [check, hexpected]
    rfl

/-- A request that expects a type disagrees with an endpoint of another shape. -/
theorem mismatchFound_expecting_iff {call : CallSite} {e : Entity} {type : String} :
    MismatchFound (expecting call type) e ↔ Apart (responseKind e) (typeShape type) := by
  simp [mismatchFound_iff, expectedKind_expecting]

/-- A request and an endpoint that both declare a type disagree if the shapes of these are known
and different. -/
theorem mismatchFound_expecting_returning_iff {call : CallSite} {e : Entity} {t u : String} :
    MismatchFound (expecting call t) (returning e u) ↔ Apart (typeShape u) (typeShape t) := by
  rw [mismatchFound_expecting_iff, responseKind_returning]

/-! ## Shapes that mismatches tell apart -/

theorem apart_some_iff {x y : String} (h : x ≠ "") : Apart (some x) (some y) ↔ x ≠ y := by
  simp [Apart, h]

theorem not_apart_none_right (provided : Option String) : ¬ Apart provided none := by
  simp [Apart]

theorem apart_typeShape_comm (t u : String) :
    Apart (typeShape t) (typeShape u) ↔ Apart (typeShape u) (typeShape t) := by
  have hflip : ∀ t u, Apart (typeShape t) (typeShape u) → Apart (typeShape u) (typeShape t) := by
    rintro t u ⟨x, y, ht, hu, -, hne⟩
    refine ⟨y, x, hu, ht, ?_, hne.symm⟩
    rintro rfl
    exact typeShape_ne_empty u hu
  exact ⟨hflip t u, hflip u t⟩

/-- A shape that is known is apart from another one. -/
theorem exists_apart {t : String} (h : typeShape t ≠ none) :
    ∃ s, Apart (typeShape s) (typeShape t) := by
  have hlist : typeShape "list" = some "array" := by decide +kernel
  have hdict : typeShape "dict" = some "object" := by decide +kernel
  obtain ⟨shape, hshape⟩ := Option.ne_none_iff_exists'.1 h
  rw [hshape]
  by_cases harray : shape = "array"
  · refine ⟨"dict", ?_⟩
    rw [hdict, harray, apart_some_iff (by decide)]
    decide
  · refine ⟨"list", ?_⟩
    rw [hlist, apart_some_iff (by decide)]
    exact Ne.symm harray

/-- Types that are apart from the same types have one shape. -/
theorem typeShape_eq_of_apart {t u : String}
    (h : ∀ s, Apart (typeShape s) (typeShape t) ↔ Apart (typeShape s) (typeShape u)) :
    typeShape t = typeShape u := by
  cases ht : typeShape t with
  | none =>
      by_contra hne
      obtain ⟨s, hs⟩ := exists_apart (Ne.symm hne)
      rw [← h s, ht] at hs
      exact not_apart_none_right _ hs
  | some x =>
      have hx : x ≠ "" := by
        rintro rfl
        exact typeShape_ne_empty t ht
      cases hu : typeShape u with
      | none =>
          obtain ⟨s, hs⟩ := exists_apart (t := t) (by simp [ht])
          rw [h s, hu] at hs
          exact absurd hs (not_apart_none_right _)
      | some y =>
          -- The type itself is not apart from its own shape, so it is not apart from the other one.
          have hself := h t
          rw [ht, hu, apart_some_iff hx, apart_some_iff hx] at hself
          by_contra hne
          exact hself.2 (fun hxy => hne (congrArg some hxy)) rfl

/-! ## Nullable types -/

/-- A type is no wrapper, or has the shape that it is written with. -/
def KeepsShape (type : String) : Prop :=
  isWrapper type = true → typeShape type = some (wrapperShape type)

/-- A nullable type has the shape of the type exactly if that is kept. -/
theorem typeShape_nullable_eq_iff {type text : String} (hplain : IsPlain type)
    (h : IsNullable type text) : typeShape text = typeShape type ↔ KeepsShape type := by
  rw [typeShape_nullable hplain h, KeepsShape]
  split
  · rename_i hwrapper
    simp only [hwrapper, forall_true_left]
    exact eq_comm
  · rename_i hwrapper
    simp [hwrapper]

/-- Two types that a request may expect are found to disagree with the same endpoints if they have
one shape. -/
theorem mismatchFound_expecting_congr_iff {t u : String} :
    (∀ call e, MismatchFound (expecting call t) e ↔ MismatchFound (expecting call u) e) ↔
      typeShape t = typeShape u := by
  constructor
  · intro h
    apply typeShape_eq_of_apart
    intro s
    have hs := h default (returning default s)
    rwa [mismatchFound_expecting_returning_iff, mismatchFound_expecting_returning_iff] at hs
  · intro h call e
    rw [mismatchFound_expecting_iff, mismatchFound_expecting_iff, h]

/-- Two types that an endpoint may declare are found to disagree with the same requests if they
have one shape. -/
theorem mismatchFound_returning_congr_iff {t u : String} :
    (∀ call e, MismatchFound call (returning e t) ↔ MismatchFound call (returning e u)) ↔
      typeShape t = typeShape u := by
  constructor
  · intro h
    apply typeShape_eq_of_apart
    intro s
    have hs := h (expecting default s) default
    rwa [mismatchFound_expecting_returning_iff, mismatchFound_expecting_returning_iff,
      apart_typeShape_comm, apart_typeShape_comm u] at hs
  · intro h call e
    rw [mismatchFound_iff, mismatchFound_iff, responseKind_returning, responseKind_returning, h]

/-- A nullable type has the shape of the type, but of a wrapper the shape that it is written with.
So the same requests and endpoints are found to disagree if the type is no wrapper, or if it has
the shape that it is written with. -/
theorem nullable_agrees_iff {type text : String} (hplain : IsPlain type)
    (h : IsNullable type text) :
    typeShape text = (if isWrapper type then some (wrapperShape type) else typeShape type) ∧
    (typeShape text = typeShape type ↔ KeepsShape type) ∧
    ((∀ call e, MismatchFound (expecting call text) e ↔ MismatchFound (expecting call type) e) ↔
      KeepsShape type) ∧
    ((∀ call e, MismatchFound call (returning e text) ↔ MismatchFound call (returning e type)) ↔
      KeepsShape type) := by
  have hkeeps := typeShape_nullable_eq_iff hplain h
  exact ⟨typeShape_nullable hplain h, hkeeps, mismatchFound_expecting_congr_iff.trans hkeeps,
    mismatchFound_returning_congr_iff.trans hkeeps⟩

/-- A promise of a user has the shape that it is written with, and a list of users is no wrapper. -/
theorem nullable_agrees_users :
    (IsPlain "Promise<User>" ∧ IsNullable "Promise<User>" "Promise<User> | null" ∧
      typeShape "Promise<User> | null" = some "object" ∧ KeepsShape "Promise<User>") ∧
    IsPlain "User[]" ∧ IsNullable "User[]" "undefined | User[]" ∧
      (∀ call e, MismatchFound (expecting call "undefined | User[]") e ↔
        MismatchFound (expecting call "User[]") e) ∧
      ∀ call e, MismatchFound call (returning e "undefined | User[]") ↔
        MismatchFound call (returning e "User[]") := by
  have hpromise : IsPlain "Promise<User>" :=
    ⟨by decide +kernel, by decide, by decide, by decide, by decide⟩
  have hlist : IsPlain "User[]" := ⟨by decide +kernel, by decide, by decide, by decide, by decide⟩
  have hnull : "null" ∈ emptyTypes := by decide
  have hundefined : "undefined" ∈ emptyTypes := by decide
  have hlast : IsNullable "Promise<User>" "Promise<User> | null" := IsNullable.last hnull
  have hfirst : IsNullable "User[]" "undefined | User[]" := IsNullable.first hundefined
  have hkeeps : KeepsShape "User[]" := fun hwrapper => absurd hwrapper (by decide +kernel)
  obtain ⟨hshape, hsame, -, -⟩ := nullable_agrees_iff hpromise hlast
  obtain ⟨-, -, hexpecting, hreturning⟩ := nullable_agrees_iff hlist hfirst
  have hobject : typeShape "Promise<User> | null" = some "object" := by
    rw [hshape]
    decide +kernel
  have hpromise' : typeShape "Promise<User>" = some "object" := by decide +kernel
  exact ⟨⟨hpromise, hlast, hobject, hsame.1 (hobject.trans hpromise'.symm)⟩, hlist, hfirst,
    hexpecting.2 hkeeps, hreturning.2 hkeeps⟩

/-- A promise of users is an array, but an object in a union, which is then found to disagree with
an endpoint that returns users. -/
theorem nullable_promise_differs :
    IsPlain "Promise<User[]>" ∧
      IsNullable "Promise<User[]>" "Promise<User[]> | null" ∧
      IsNullable "Promise<User[]>" "null | Promise<User[]>" ∧
      typeShape "Promise<User[]>" = some "array" ∧
      typeShape "Promise<User[]> | null" = some "object" ∧
      typeShape "null | Promise<User[]>" = some "object" ∧
      ¬ MismatchFound (expecting default "Promise<User[]>") (returning default "User[]") ∧
      MismatchFound (expecting default "Promise<User[]> | null") (returning default "User[]") := by
  have hnull : "null" ∈ emptyTypes := by decide
  have hpromise : typeShape "Promise<User[]>" = some "array" := by decide +kernel
  have hunion : typeShape "Promise<User[]> | null" = some "object" := by decide +kernel
  have hlist : typeShape "User[]" = some "array" := by decide +kernel
  refine ⟨⟨by decide +kernel, by decide, by decide, by decide, by decide⟩, IsNullable.last hnull,
    IsNullable.first hnull, hpromise, hunion, by decide +kernel, ?_, ?_⟩
  · rw [mismatchFound_expecting_returning_iff, hpromise, hlist, apart_some_iff (by decide)]
    exact fun hne => hne rfl
  · rw [mismatchFound_expecting_returning_iff, hunion, hlist, apart_some_iff (by decide)]
    decide

end Contract
end CrossAudit
