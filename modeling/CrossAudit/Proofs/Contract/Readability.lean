import CrossAudit.Proofs.Contract.Agreement

/-!
# Metadata that can be read

The metadata of entities has no fixed shape, and three of its members are read: the names that an
entity calls, the imports of a module, and the notes on requests.  Reading fails at elements of
another shape than the reader expects.  Some shapes only matter if there are endpoints to compare
with: the URL of a request if there is any, its expected type if one fits.

Main results:

- Theorem `attains_validate`: the contracts of entities can be validated exactly if all their
  notes on requests are tenable.
- Theorem `attains_pair`: requests can be paired exactly if all notes on them can be sent.
- Theorem `attains_calls`, `attains_imports`: so for called names and imports.
- Theorem `exists_build_iff`: references can be built exactly if all entities are legible.
- Theorem `phases_succeed_iff`: validation, summary and references can all be computed exactly if
  all entities are readable.
-/

namespace CrossAudit

/-- Whether a member of the metadata, if it is there, can be run through, and all its elements pass
a test. -/
def Entity.runsOver (e : Entity) (key : String) (test : Json → Bool) : Bool :=
  attains ((e.metadata.lookup key).getD (.arr [])).elements (·.all test)

/-! ## Requests -/

namespace Contract

variable {ms : List (String × Json)} {key : String}

/-- A member that is not textual is no text where it counts. -/
theorem valueOr_ne_str (h : isTextual ms key = false) (fallback : Json) (s : String) :
    valueOr ms key fallback ≠ .str s := by
  unfold isTextual at h
  split at h
  · cases h
  · rename_i v hstr hlookup
    have hholds : v.holds = true := by simpa using h
    rw [valueOr, hlookup, Option.getD_some, if_pos hholds]
    exact hstr s
  · cases h

/-- The request that an object tells of.  The method is only meant if it is a text. -/
def noteSite (e : Entity) (ms : List (String × Json)) : CallSite where
  entity := e
  method := Text.upper ((valueOr ms "method" (.str "GET")).str?.getD "")
  url := valueOr ms "url" (.str "/")
  line := valueOr ms "line" (.int e.startLine)
  column := valueOr ms "column" (.int 1)
  hasAuth := ((ms.lookup "has_auth").getD .null).holds
  expectedType := (ms.lookup "expected_response_type").getD .null

/-- Whether a note on a request can be held against endpoints. -/
def isTenable (es : List Entity) (e : Entity) : Json → Bool
  | .obj ms =>
    isTextual ms "method" && (es.isEmpty || isTextual ms "url") &&
      (isTextual ms "expected_response_type" || !es.any (fits (noteSite e ms)))
  | _ => false

/-- A note is read if it is an object whose method is a text. -/
theorem attains_readNote_obj (e : Entity) (ms : List (String × Json)) (test : CallSite → Bool) :
    attains (readNote e (.obj ms)) test = (isTextual ms "method" && test (noteSite e ms)) := by
  cases htext : isTextual ms "method" with
  | true =>
      rcases exists_valueOr_eq_str htext "GET" with ⟨m, hm⟩
      have hmethod : noteMethod (.obj ms) = .ok (noteSite e ms).method := by
        simp only [noteMethod, noteSite, noteOr_obj, hm]
        rfl
      simp only [readNote, hmethod, noteOr_obj]
      rfl
  | false =>
      have hmethod : ∃ fault, noteMethod (.obj ms) = .error fault := by
        simp only [noteMethod, noteOr_obj]
        have hne := valueOr_ne_str htext (.str "GET")
        cases hvalue : valueOr ms "method" (.str "GET") with
        | str s => exact absurd hvalue (hne s)
        | _ => exact ⟨_, rfl⟩
      rcases hmethod with ⟨fault, hmethod⟩
      simp only [readNote, hmethod]
      rfl

/-- The endpoints that a request reaches can be found if there are none, or if its URL is a text. -/
theorem attains_pathHits (es : List Entity) (e : Entity) (ms : List (String × Json))
    (test : List Entity → Bool) :
    attains (pathHits es (noteSite e ms).url) test =
      ((es.isEmpty || isTextual ms "url") && test (es.filter (reaches (noteSite e ms)))) := by
  cases es with
  | nil => rfl
  | cons x es =>
      have hurl : (noteSite e ms).url = valueOr ms "url" (.str "/") := rfl
      cases htext : isTextual ms "url" with
      | true =>
          rcases exists_valueOr_eq_str htext "/" with ⟨u, hu⟩
          have hreaches : reaches (noteSite e ms) =
              fun e => Route.isMatch (e.apiEndpoint.getD "") u := by
            funext y
            simp [reaches, hurl, hu]
          rw [hurl, hu, hreaches]
          rfl
      | false =>
          have hne := valueOr_ne_str htext (.str "/")
          rw [hurl]
          cases hvalue : valueOr ms "url" (.str "/") with
          | str s => exact absurd hvalue (hne s)
          | _ => rfl

/-- An expected type can be read if it is textual. -/
theorem attains_expectedKind (ms : List (String × Json)) (key : String) :
    attains (expectedKind ((ms.lookup key).getD .null)) (fun _ => true) = isTextual ms key := by
  unfold isTextual
  cases hlookup : ms.lookup key with
  | none => rfl
  | some v =>
      cases v with
      | str s => rfl
      | _ =>
          simp only [Option.getD_some, expectedKind]
          split <;> simp_all

/-- The check of a request can only fail for its expected type, and only if some endpoint fits. -/
theorem attains_check_partner (es : List Entity) (s : CallSite) :
    attains (check (s, partner es s)) (fun _ => true) =
      ((attains (expectedKind s.expectedType) fun _ => true) || !es.any (fits s)) := by
  rcases partner_cases es s with ⟨hnone, hreach⟩ | ⟨e, he, hfull, hfits⟩ | ⟨e, _, hpath, _, hfits⟩
  · have hfits : es.any (fits s) = false := by
      by_contra hany
      rw [any_reaches_of_any_fits (by simpa using hany)] at hreach
      cases hreach
    rw [hnone, hfits, Bool.not_false, Bool.or_true]
    rfl
  · rw [hfull, List.any_eq_true.2 ⟨e, he, hfits⟩, check, attains_bind]
    simp
  · rw [hpath, hfits, Bool.not_false, Bool.or_true]
    rfl

/-- A note leads to a finished check exactly if it is tenable. -/
theorem attains_check_readNote (es : List Entity) (e : Entity) (note : Json) :
    (attains (readNote e note) fun s => attains (pathHits es s.url) fun hits =>
      attains (check (s, choose s.method hits)) fun _ => true) = isTenable es e note := by
  cases note with
  | obj ms =>
      have hcheck := attains_check_partner es (noteSite e ms)
      rw [show (noteSite e ms).expectedType = (ms.lookup "expected_response_type").getD .null from
        rfl, attains_expectedKind] at hcheck
      rw [attains_readNote_obj, attains_pathHits, ← partner, hcheck, isTenable, Bool.and_assoc]
  | _ => rfl

/-- The contracts of entities can be validated exactly if all their notes on requests are
tenable. -/
theorem attains_validate (entities : List Entity) :
    attains (validate entities) (fun _ => true) =
      entities.all fun e => e.runsOver "api_calls" (isTenable (endpoints entities) e) := by
  simp only [validate, pair, callSites, callsOf, attains_bind, attains_pure, attains_mapM_true,
    attains_mapM, List.all_flatten, attains_check_readNote, Entity.runsOver]

/-- Whether a note on a request can be compared with endpoints: its method is a text, and so is its
URL if there is any endpoint. -/
def isSendable (es : List Entity) : Json → Bool
  | .obj ms => isTextual ms "method" && (es.isEmpty || isTextual ms "url")
  | _ => false

theorem attains_pathHits_readNote (es : List Entity) (e : Entity) (note : Json) :
    (attains (readNote e note) fun s => attains (pathHits es s.url) fun _ => true) =
      isSendable es note := by
  cases note with
  | obj ms => rw [attains_readNote_obj, attains_pathHits, Bool.and_true, isSendable]
  | _ => rfl

/-- Requests can be paired exactly if all notes on them can be sent. -/
theorem attains_pair (entities : List Entity) :
    attains (pair entities) (fun _ => true) =
      entities.all fun e => e.runsOver "api_calls" (isSendable (endpoints entities)) := by
  simp only [pair, callSites, callsOf, attains_bind, attains_pure, attains_mapM_true,
    attains_mapM, List.all_flatten, attains_pathHits_readNote, Entity.runsOver]

end Contract

/-! ## Called names and imports -/

namespace Reference

/-- Whether an import is an object whose source is a text, if it has one. -/
def isImportNote : Json → Bool
  | .obj ms => ((ms.lookup "source").getD (.str "")).str?.isSome
  | _ => false

theorem attains_ofCallName (entities : List Entity) (e : Entity) (name : Json) :
    attains (ofCallName entities e name) (fun _ => true) = name.str?.isSome := by
  cases name <;> rfl

theorem attains_ofImport (modules : List Entity) (m : Entity) (note : Json) :
    attains (ofImport modules m note) (fun _ => true) = isImportNote note := by
  cases note with
  | obj ms =>
      rw [ofImport, attains_bind]
      cases hsource : (ms.lookup "source").getD (.str "") <;>
        simp [Json.member, hsource, isImportNote, Json.str?] <;> rfl
  | _ => rfl

theorem attains_calls (entities : List Entity) :
    attains (calls entities) (fun _ => true) =
      entities.all fun e => e.runsOver "call_names" (·.str?.isSome) := by
  simp only [calls, attains_bind, attains_pure, attains_mapM_true, attains_ofCallName,
    Entity.runsOver]

theorem attains_imports (entities : List Entity) :
    attains (imports entities) (fun _ => true) =
      entities.all fun e => e.type != "module" || e.runsOver "imports" isImportNote := by
  simp only [imports, attains_bind, attains_pure, attains_mapM_true, attains_ofImport,
    Entity.runsOver, List.all_filter]
  rfl

/-- Whether references can be built from the metadata of an entity: called names are texts, imports
of a module are objects with texts as sources, and notes on requests can be sent. -/
def isLegible (es : List Entity) (e : Entity) : Bool :=
  e.runsOver "call_names" (·.str?.isSome) &&
    (e.type != "module" || e.runsOver "imports" isImportNote) &&
    e.runsOver "api_calls" (Contract.isSendable es)

/-- References can be built exactly if all entities are legible. -/
theorem exists_build_iff (entities : List Entity) :
    (∃ built, build entities = .ok built) ↔
      ∀ e ∈ entities, isLegible (Contract.endpoints entities) e = true := by
  have hlegible : (∀ e ∈ entities, isLegible (Contract.endpoints entities) e = true) ↔
      (∃ cs, calls entities = .ok cs) ∧ (∃ is, imports entities = .ok is) ∧
        ∃ pairs, Contract.pair entities = .ok pairs := by
    simp only [← attains_true_iff, attains_calls, attains_imports, Contract.attains_pair,
      List.all_eq_true, isLegible, Bool.and_eq_true]
    grind
  rw [hlegible]
  constructor
  · rintro ⟨⟨refs, after⟩, hbuild⟩
    rcases exists_inferred_of_build hbuild with ⟨rs, hrs, _⟩
    simp only [inferred, requests, bind_eq_ok_iff] at hrs
    rcases hrs with ⟨cs, hcalls, is, himports, _, ⟨pairs, hpairs, _⟩, _⟩
    exact ⟨⟨cs, hcalls⟩, ⟨is, himports⟩, pairs, hpairs⟩
  · rintro ⟨⟨cs, hcalls⟩, ⟨is, himports⟩, pairs, hpairs⟩
    simp only [build, inferred, requests, hcalls, himports, hpairs]
    exact ⟨_, rfl⟩

end Reference

/-! ## All readers -/

namespace Contract

/-- Whether the metadata of an entity can be read among endpoints: called names are texts, imports
of a module are objects with texts as sources, and notes on requests are tenable. -/
def isReadable (es : List Entity) (e : Entity) : Bool :=
  e.runsOver "call_names" (·.str?.isSome) &&
    (e.type != "module" || e.runsOver "imports" Reference.isImportNote) &&
    e.runsOver "api_calls" (isTenable es e)

/-- Validation, summary and references can all be computed exactly if all entities are readable. -/
theorem phases_succeed_iff (entities : List Entity) :
    ((∃ findings, validate entities = .ok findings) ∧ (∃ usage, summarize entities = .ok usage) ∧
      ∃ built, Reference.build entities = .ok built) ↔
      ∀ e ∈ entities, isReadable (endpoints entities) e = true := by
  have hreadable : (∀ e ∈ entities, isReadable (endpoints entities) e = true) ↔
      (∃ cs, Reference.calls entities = .ok cs) ∧ (∃ is, Reference.imports entities = .ok is) ∧
        ∃ findings, validate entities = .ok findings := by
    simp only [← attains_true_iff, Reference.attains_calls, Reference.attains_imports,
      attains_validate, List.all_eq_true, isReadable, Bool.and_eq_true]
    grind
  rw [hreadable]
  constructor
  · rintro ⟨hvalidate, _, ⟨refs, after⟩, hbuild⟩
    rcases Reference.exists_inferred_of_build hbuild with ⟨rs, hrs, _⟩
    simp only [Reference.inferred, bind_eq_ok_iff] at hrs
    rcases hrs with ⟨cs, hcalls, is, himports, _⟩
    exact ⟨⟨cs, hcalls⟩, ⟨is, himports⟩, hvalidate⟩
  · rintro ⟨⟨cs, hcalls⟩, ⟨is, himports⟩, findings, hvalidate⟩
    -- Whatever is validated was paired before.
    have hpair : ∃ pairs, pair entities = .ok pairs := by
      rw [validate, bind_eq_ok_iff] at hvalidate
      rcases hvalidate with ⟨pairs, hpairs, _⟩
      exact ⟨pairs, hpairs⟩
    rcases hpair with ⟨pairs, hpairs⟩
    refine ⟨⟨findings, hvalidate⟩, ⟨_, summarize_eq_ok hpairs⟩, ?_⟩
    simp only [Reference.build, Reference.inferred, Reference.requests, hcalls, himports, hpairs]
    exact ⟨_, rfl⟩

end Contract
end CrossAudit
