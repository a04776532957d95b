import CrossAudit.Contract.Pairing
import CrossAudit.Proofs.Failing

/-!
# Which endpoint a request is paired with

If the notes on requests have the shape that analyzers agree on, every request is read, its URL is a
text, and pairing it never fails.  It then gets an endpoint exactly if some route matches its path,
and one of its own method exactly if there is such an endpoint.

Main results:

- Theorem `exists_callSites_eq_ok`: the requests of entities with well-typed notes can be read.
- Theorem `pair_eq_ok`: each request is paired with its partner among the endpoints.
- Theorem `partner_cases`: a request has no partner, or one that fits, or one by its path alone.
-/

namespace CrossAudit
namespace Contract

/-! ## Well-typed notes -/

/-- Whether a member is a text wherever it holds. -/
def isTextual (ms : List (String × Json)) (key : String) : Bool :=
  match ms.lookup key with
  | some (.str _) => true
  | some v => !v.holds
  | none => true

/-- Whether a note on a request is an object whose method, URL and expected type are texts. -/
def isWellTypedNote : Json → Bool
  | .obj ms => isTextual ms "method" && isTextual ms "url" && isTextual ms "expected_response_type"
  | _ => false

/-- Whether the notes of an entity on requests, if it has any, are a list of well-typed ones. -/
def hasWellTypedNotes (e : Entity) : Bool :=
  match e.metadata.lookup "api_calls" with
  | some (.arr notes) => notes.all isWellTypedNote
  | some _ => false
  | none => true

/-- A request whose URL is a text, and whose expected type is one wherever it holds. -/
structure CallSite.WellTyped (s : CallSite) : Prop where
  url : ∃ u, s.url = .str u
  expected : s.expectedType.holds = true → ∃ t, s.expectedType = .str t

variable {ms : List (String × Json)} {key : String}

/-- A textual member that holds is a text. -/
theorem exists_eq_str_of_isTextual (h : isTextual ms key = true)
    (hv : ((ms.lookup key).getD .null).holds = true) :
    ∃ s, (ms.lookup key).getD .null = .str s := by
  unfold isTextual at h
  split at h
  · rename_i s hlookup
    exact ⟨s, by rw [hlookup]; rfl⟩
  · rename_i v _ hlookup
    rw [hlookup] at hv
    simp only [Option.getD_some] at hv
    simp [hv] at h
  · rename_i hlookup
    rw [hlookup] at hv
    cases hv

/-- The value of a member, or a given one where the member is missing or does not hold. -/
def valueOr (ms : List (String × Json)) (key : String) (fallback : Json) : Json :=
  if ((ms.lookup key).getD .null).holds then (ms.lookup key).getD .null else fallback

theorem noteOr_obj (ms : List (String × Json)) (key : String) (fallback : Json) :
    noteOr (.obj ms) key fallback = .ok (valueOr ms key fallback) :=
  rfl

/-- A textual member is read as a text. -/
theorem exists_valueOr_eq_str (h : isTextual ms key = true) (fallback : String) :
    ∃ s, valueOr ms key (.str fallback) = .str s := by
  unfold valueOr
  by_cases hv : ((ms.lookup key).getD .null).holds = true
  · rcases exists_eq_str_of_isTextual h hv with ⟨s, hs⟩
    exact ⟨s, by rw [if_pos hv, hs]⟩
  · exact ⟨fallback, if_neg hv⟩

/-- A well-typed note is read as a well-typed request. -/
theorem exists_readNote_eq_ok {note : Json} (h : isWellTypedNote note = true) (e : Entity) :
    ∃ s, readNote e note = .ok s ∧ s.WellTyped := by
  unfold isWellTypedNote at h
  split at h
  case h_2 => cases h
  rename_i ms
  simp only [Bool.and_eq_true] at h
  rcases h with ⟨⟨hmethod, hurl⟩, hexpected⟩
  rcases exists_valueOr_eq_str hmethod "GET" with ⟨m, hm⟩
  rcases exists_valueOr_eq_str hurl "/" with ⟨u, hu⟩
  have hread : noteMethod (.obj ms) = .ok (Text.upper m) := by
    simp only [noteMethod, noteOr_obj, hm]
    rfl
  let s : CallSite :=
    { entity := e, method := Text.upper m, url := .str u
      line := valueOr ms "line" (.int e.startLine), column := valueOr ms "column" (.int 1)
      hasAuth := ((ms.lookup "has_auth").getD .null).holds
      expectedType := (ms.lookup "expected_response_type").getD .null }
  refine ⟨s, ?_, ⟨u, rfl⟩, fun hv => exists_eq_str_of_isTextual hexpected hv⟩
  simp only [readNote, hread, noteOr_obj, hu]
  rfl

/-- The requests of an entity with well-typed notes can be read. -/
theorem exists_callsOf_eq_ok {e : Entity} (h : hasWellTypedNotes e = true) :
    ∃ calls, callsOf e = .ok calls ∧ ∀ s ∈ calls, s.WellTyped := by
  have hnotes : ∃ notes, ((e.metadata.lookup "api_calls").getD (.arr [])).elements = .ok notes ∧
      ∀ note ∈ notes, isWellTypedNote note = true := by
    unfold hasWellTypedNotes at h
    split at h
    · rename_i notes hlookup
      rw [hlookup]
      exact ⟨notes, rfl, List.all_eq_true.1 h⟩
    · cases h
    · rename_i hlookup
      rw [hlookup]
      exact ⟨[], rfl, by simp⟩
  rcases hnotes with ⟨notes, helements, hnotes⟩
  have hread : ∀ note ∈ notes, ∃ s, readNote e note = .ok s := by
    intro note hnote
    rcases exists_readNote_eq_ok (hnotes note hnote) e with ⟨s, hs, _⟩
    exact ⟨s, hs⟩
  rcases exists_mapM_eq_ok hread with ⟨calls, hcalls⟩
  refine ⟨calls, ?_, ?_⟩
  · rw [callsOf, helements]
    exact hcalls
  · intro s hs
    rcases exists_of_mem_mapM hcalls hs with ⟨note, hnote, hsite⟩
    rcases exists_readNote_eq_ok (hnotes note hnote) e with ⟨s', hs', htyped⟩
    rw [hsite, Except.ok.injEq] at hs'
    exact hs' ▸ htyped

/-- The requests of entities with well-typed notes can be read. -/
theorem exists_callSites_eq_ok {entities : List Entity}
    (h : ∀ e ∈ entities, hasWellTypedNotes e = true) :
    ∃ sites, callSites entities = .ok sites ∧ ∀ s ∈ sites, s.WellTyped := by
  have hcalls : ∀ e ∈ entities, ∃ calls, callsOf e = .ok calls := by
    intro e he
    rcases exists_callsOf_eq_ok (h e he) with ⟨calls, hcalls, _⟩
    exact ⟨calls, hcalls⟩
  rcases exists_mapM_eq_ok hcalls with ⟨found, hfound⟩
  refine ⟨found.flatten, ?_, ?_⟩
  · rw [callSites, hfound]
    rfl
  · intro s hs
    rcases List.mem_flatten.1 hs with ⟨calls, hmem, hs⟩
    rcases exists_of_mem_mapM hfound hmem with ⟨e, he, hcallsOf⟩
    rcases exists_callsOf_eq_ok (h e he) with ⟨calls', hcalls', htyped⟩
    rw [hcallsOf, Except.ok.injEq] at hcalls'
    exact htyped s (hcalls' ▸ hs)

/-! ## Partners -/

/-- Whether the route of an endpoint matches the path of a request. -/
def reaches (s : CallSite) (e : Entity) : Bool :=
  match s.url with
  | .str u => Route.isMatch (e.apiEndpoint.getD "") u
  | _ => false

/-- Whether the route and the method of an endpoint match a request. -/
def fits (s : CallSite) (e : Entity) : Bool :=
  reaches s e && endpointMethod e == s.method

/-- The partner of a request among endpoints. -/
def partner (es : List Entity) (s : CallSite) : Option (Entity × MatchKind) :=
  choose s.method (es.filter (reaches s))

variable {es : List Entity} {s : CallSite} {e : Entity}

/-- The endpoints that a well-typed request reaches. -/
theorem CallSite.WellTyped.pathHits_eq (h : s.WellTyped) (es : List Entity) :
    pathHits es s.url = .ok (es.filter (reaches s)) := by
  rcases h.url with ⟨u, hu⟩
  have hreaches : reaches s = fun e => Route.isMatch (e.apiEndpoint.getD "") u := by
    funext e
    simp [reaches, hu]
  rw [hreaches, hu]
  cases es with
  | nil => rfl
  | cons e es => rfl

/-- Each request is paired with its partner among the endpoints. -/
theorem pair_eq_ok {entities : List Entity} {sites : List CallSite}
    (hsites : callSites entities = .ok sites) (htyped : ∀ s ∈ sites, s.WellTyped) :
    pair entities = .ok (sites.map fun s => (s, partner (endpoints entities) s)) := by
  simp only [pair, hsites]
  apply mapM_eq_ok_map
  intro s hs
  rw [(htyped s hs).pathHits_eq]
  rfl

/-- No endpoint that is reached has the method of the request, so none fits. -/
theorem any_fits_eq_false
    (h : (es.filter (reaches s)).find? (fun e => endpointMethod e == s.method) = none) :
    es.any (fits s) = false := by
  rw [List.find?_eq_none] at h
  rw [List.any_eq_false]
  intro e he hfits
  rw [fits, Bool.and_eq_true] at hfits
  exact h e (List.mem_filter.2 ⟨he, hfits.1⟩) hfits.2

/-- A request has no partner and reaches no endpoint, or its partner fits, or its partner is only
reached and no endpoint fits. -/
theorem partner_cases (es : List Entity) (s : CallSite) :
    (partner es s = none ∧ es.any (reaches s) = false) ∨
    (∃ e ∈ es, partner es s = some (e, .full) ∧ fits s e = true) ∨
    ∃ e ∈ es, partner es s = some (e, .pathOnly) ∧ reaches s e = true ∧
      es.any (fits s) = false := by
  unfold partner choose
  cases hfind : (es.filter (reaches s)).find? fun e => endpointMethod e == s.method with
  | some e =>
      refine Or.inr (Or.inl ⟨e, ?_, rfl, ?_⟩)
      · exact (List.mem_filter.1 (List.mem_of_find?_eq_some hfind)).1
      · have hreached := (List.mem_filter.1 (List.mem_of_find?_eq_some hfind)).2
        have hmethod := List.find?_some hfind
        rw [fits, hreached, hmethod]
        rfl
  | none =>
      have hnone := any_fits_eq_false hfind
      cases hhits : es.filter (reaches s) with
      | nil =>
          refine Or.inl ⟨rfl, ?_⟩
          rw [List.any_eq_false]
          exact List.filter_eq_nil_iff.1 hhits
      | cons e rest =>
          have hmem : e ∈ es.filter (reaches s) := hhits ▸ List.mem_cons_self
          rw [List.mem_filter] at hmem
          exact Or.inr (Or.inr ⟨e, hmem.1, rfl, hmem.2, hnone⟩)

/-- An endpoint that fits is reached. -/
theorem any_reaches_of_any_fits (h : es.any (fits s) = true) : es.any (reaches s) = true := by
  rw [List.any_eq_true] at h ⊢
  rcases h with ⟨e, he, hfits⟩
  rw [fits, Bool.and_eq_true] at hfits
  exact ⟨e, he, hfits.1⟩

end Contract
end CrossAudit
