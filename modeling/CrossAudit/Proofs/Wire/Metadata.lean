import CrossAudit.Proofs.Assoc
import CrossAudit.Proofs.Contract.Readability
import CrossAudit.Proofs.Entity.Naming
import CrossAudit.Proofs.Wire.LastLine

/-!
# Whose metadata can be read

The entities of source files only get notes that can be read, whatever endpoints there are.  The
entities of an external analyzer bring along metadata of any shape, so the readers can fail, and
they do exactly if one of these entities is not readable.

Main results:

- Theorem `Extracted.wellNoted`: the entities of source files have notes of known shapes.
- Theorem `phases_succeed_iff_external`: only entities of an external analyzer can keep validation,
  summary and references from being computed, and they do exactly if they are not readable.
-/

namespace CrossAudit

/-! ## Notes of known shapes -/

/-- The notes of an entity have the shapes that an extraction gives them. -/
structure Entity.WellNoted (e : Entity) : Prop where
  names : ∃ names, (e.metadata.lookup "call_names").getD (.arr []) = .ofTexts names
  imports : ∃ notes, (e.metadata.lookup "imports").getD (.arr []) = .arr notes ∧
    ∀ note ∈ notes, Reference.isImportNote note = true
  requests : ∃ calls : List ApiCall,
    (e.metadata.lookup "api_calls").getD (.arr []) = .arr (calls.map Extraction.callNote)

namespace Contract

/-- The notes that an extraction takes of requests are tenable. -/
theorem isTenable_callNote (es : List Entity) (e : Entity) (c : ApiCall) :
    isTenable es e (Extraction.callNote c) = true := by
  have hmethod : isTextual (Extraction.callNote c).members "method" = true := rfl
  have hurl : isTextual (Extraction.callNote c).members "url" = true := rfl
  have hexpected : isTextual (Extraction.callNote c).members "expected_response_type" = true := by
    rcases c with ⟨_, _, _, _, _, _ | type, _⟩ <;> rfl
  have hnote : Extraction.callNote c = .obj (Extraction.callNote c).members := rfl
  rw [hnote, isTenable, hmethod, hurl, hexpected]
  simp

/-- Notes of known shapes are readable. -/
theorem isReadable_of_wellNoted {e : Entity} (h : e.WellNoted) (es : List Entity) :
    isReadable es e = true := by
  rcases h.names with ⟨names, hnames⟩
  rcases h.imports with ⟨notes, hnotes, himports⟩
  rcases h.requests with ⟨calls, hcalls⟩
  have hnamed : e.runsOver "call_names" (·.str?.isSome) = true := by
    simp [Entity.runsOver, hnames, Json.ofTexts, Json.elements, Json.str?]
  have himported : e.runsOver "imports" Reference.isImportNote = true := by
    simpa [Entity.runsOver, hnotes, Json.elements] using himports
  have hrequested : e.runsOver "api_calls" (isTenable es e) = true := by
    simp [Entity.runsOver, hcalls, Json.elements, isTenable_callNote]
  simp [isReadable, hnamed, himported, hrequested]

end Contract

/-! ## Entities of source files -/

namespace Extraction

open Syntax

variable {w : Workspace} {r : Registry} {a : Adapter} {d : Document} {e : Entity}

/-- Drafts have notes of known shapes. -/
theorem wellNoted_of_mem_drafts {x : Draft} (h : x ∈ drafts a d) : x.entity.WellNoted := by
  simp only [drafts, List.cons_append, List.mem_cons, List.mem_append, List.mem_map] at h
  rcases h with rfl | ((⟨f, _, rfl⟩ | ⟨c, _, rfl⟩) | ⟨i, _, rfl⟩) | ⟨e, _, rfl⟩
  · refine ⟨⟨[], rfl⟩, ⟨_, rfl, ?_⟩, ⟨[], rfl⟩⟩
    intro note hnote
    rcases List.mem_map.1 hnote with ⟨i, _, rfl⟩
    rfl
  · exact ⟨⟨f.calls, rfl⟩, ⟨[], rfl, by simp⟩, ⟨[], rfl⟩⟩
  · exact ⟨⟨[], rfl⟩, ⟨[], rfl, by simp⟩, ⟨[], rfl⟩⟩
  · exact ⟨⟨[], rfl⟩, ⟨[], rfl, by simp⟩, ⟨[], rfl⟩⟩
  · exact ⟨⟨[], rfl⟩, ⟨[], rfl, by simp⟩, ⟨[], rfl⟩⟩

/-- Naming leaves the notes alone. -/
theorem wellNoted_of_mem_name {ds : List Draft} {pool : IdPool}
    (hds : ∀ x ∈ ds, x.entity.WellNoted) (he : e ∈ (name pool ds).1) : e.WellNoted := by
  induction ds generalizing pool with
  | nil => cases he
  | cons x ds ih =>
      have hhead := hds x List.mem_cons_self
      rcases List.mem_cons.1 he with rfl | he
      · exact ⟨hhead.names, hhead.imports, hhead.requests⟩
      · exact ih (fun y hy => hds y (List.mem_cons_of_mem x hy)) he

/-- Noting a request keeps the other notes, and adds one of the known shape. -/
theorem wellNoted_noteCall (h : e.WellNoted) (c : ApiCall) :
    (noteCall (callNote c) e).WellNoted := by
  have hlookup : ∀ key, (noteCall (callNote c) e).metadata.lookup key = if key == "api_calls" then
      some (.arr (((e.metadata.lookup "api_calls").map Json.items).getD [] ++ [callNote c]))
      else e.metadata.lookup key :=
    fun key => Assoc.lookup_set "api_calls" key _ e.metadata
  refine ⟨?_, ?_, ?_⟩
  · rw [hlookup]
    exact h.names
  · rw [hlookup]
    exact h.imports
  · rcases h.requests with ⟨calls, hcalls⟩
    refine ⟨calls ++ [c], ?_⟩
    rw [hlookup, if_pos (by decide), Option.getD_some, List.map_append]
    cases hknown : e.metadata.lookup "api_calls" with
    | none =>
        rw [hknown] at hcalls
        cases calls with
        | nil => rfl
        | cons c cs => cases hcalls
    | some v =>
        rw [hknown, Option.getD_some] at hcalls
        rw [hcalls]
        rfl

/-- Attaching requests keeps the notes in their shapes. -/
theorem wellNoted_foldl_attach {entities : List Entity} (calls : List ApiCall)
    (h : ∀ e ∈ entities, e.WellNoted) : ∀ e ∈ calls.foldl attach entities, e.WellNoted := by
  induction calls generalizing entities with
  | nil => exact h
  | cons call calls ih =>
      apply ih
      intro e he
      rcases List.mem_map.1 he with ⟨old, hold, rfl⟩
      split
      · exact wellNoted_noteCall (h old hold) call
      · exact h old hold

theorem wellNoted_ofFile {file : String} {pool : IdPool}
    (he : e ∈ (ofFile w a file pool).1.entities) : e.WellNoted := by
  cases hread : w.read (normalPath file) with
  | error fault =>
      rw [ofFile_of_unreadable hread] at he
      cases he
  | ok content =>
      rw [ofFile_of_read hread] at he
      cases hcalls : a.apiCalls (w.parse a (normalPath file) content) with
      | error fault =>
          rw [hcalls] at he
          cases he
      | ok calls =>
          rw [hcalls] at he
          exact wellNoted_foldl_attach calls
            (fun x hx => wellNoted_of_mem_name (fun y hy => wellNoted_of_mem_drafts hy) hx) e he

theorem wellNoted_ofFiles {files : List String} {pool : IdPool}
    (he : e ∈ (ofFiles w r files pool).1.entities) : e.WellNoted := by
  induction files generalizing pool with
  | nil => cases he
  | cons file rest ih =>
      cases hadapter : r.adapterFor? file with
      | none =>
          simp only [ofFiles, hadapter] at he
          exact ih he
      | some a =>
          simp only [ofFiles, hadapter, Yield.append, List.mem_append] at he
          exact he.elim wellNoted_ofFile ih

/-- An entity of source files. -/
def Extracted (e : Entity) : Prop :=
  ∃ w r files y, attempt w r files = .ok y ∧ e ∈ y.entities

/-- The entities of source files have notes of known shapes. -/
theorem Extracted.wellNoted (h : Extracted e) : e.WellNoted := by
  rcases h with ⟨w, r, files, y, hattempt, he⟩
  rw [eq_run_of_attempt hattempt] at he
  exact wellNoted_ofFiles he

end Extraction

/-! ## Entities of external analyzers -/

namespace Wire

open Contract

/-- Validation, summary and references of an external analyzer's entities, together with any
entities of source files, can all be computed exactly if the former are readable. -/
theorem phases_succeed_iff_external (language : String) (result : Result)
    {others : List CrossAudit.Entity} (hothers : ∀ e ∈ others, Extraction.Extracted e) :
    ((∃ findings, validate ((result.toTask language).entities ++ others) = .ok findings) ∧
      (∃ usage, summarize ((result.toTask language).entities ++ others) = .ok usage) ∧
      ∃ built, Reference.build ((result.toTask language).entities ++ others) = .ok built) ↔
      ∀ e ∈ (result.toTask language).entities,
        isReadable (endpoints ((result.toTask language).entities ++ others)) e = true := by
  rw [phases_succeed_iff]
  constructor
  · intro h e he
    exact h e (List.mem_append_left others he)
  · intro h e he
    rcases List.mem_append.1 he with he | he
    · exact h e he
    · exact isReadable_of_wellNoted (hothers e he).wellNoted _

/-- A response with an entity that notes a number in place of its requests. -/
def countedRequests : String :=
  "\x7b\"result\":\x7b\"indexEntries\":[" ++
    "\x7b\"name\":\"\",\"file\":\"\",\"metadata\":\x7b\"api_calls\":5\x7d\x7d]\x7d\x7d"

/-- Such a response is accepted, and then none of the three can be computed. -/
theorem phases_fail_counted : ∃ response result,
    Response.ofOutput ("" ++ "\n" ++ countedRequests ++ "\n") = .ok response ∧
      response.result = some result ∧
      validate (result.toTask "go").entities = .error (.notIterable "int") ∧
      summarize (result.toTask "go").entities = .error (.notIterable "int") ∧
      Reference.build (result.toTask "go").entities = .error (.notIterable "int") := by
  have hread : ((resultOf? countedRequests).map fun result =>
      let es := (result.toTask "go").entities
      ((validate es).map fun _ => (), (summarize es).map fun _ => (),
        (Reference.build es).map fun _ => ())) =
        some (.error (.notIterable "int"), .error (.notIterable "int"),
          .error (.notIterable "int")) := by
    decide +kernel
  rcases Option.map_eq_some_iff.1 hread with ⟨result, hresult, houtcomes⟩
  rcases exists_ofOutput_of_resultOf? "" (by decide +kernel) hresult with
    ⟨response, haccepted, hcarried⟩
  simp only [Prod.mk.injEq, map_eq_error_iff] at houtcomes
  exact ⟨response, result, haccepted, hcarried, houtcomes⟩

/-- A response with a request whose URL is a number. -/
def numberedUrl : String :=
  "\x7b\"result\":\x7b\"indexEntries\":[\x7b\"name\":\"\",\"file\":\"\"," ++
    "\"metadata\":\x7b\"api_calls\":[\x7b\"url\":5\x7d]\x7d\x7d]\x7d\x7d"

/-- A file with nothing in it. -/
def bareFile : Workspace where
  entries := [(["a.py"], .file "".toUTF8)]
  trees := [("a.py", .mk { kind := "module", first := 0, last := 0,
                           location := ⟨⟨1, 1⟩, ⟨1, 1⟩⟩ } [])]

/-- Without endpoints such a URL does no harm. -/
theorem phases_succeed_iff_external_numbered : ∃ response result others,
    Response.ofOutput ("" ++ "\n" ++ numberedUrl ++ "\n") = .ok response ∧
      response.result = some result ∧ (∀ e ∈ others, Extraction.Extracted e) ∧
      others.map (·.id) = ["python:module:a.py:a:1:1"] ∧
      (∃ findings, validate ((result.toTask "go").entities ++ others) = .ok findings) ∧
      (∃ usage, summarize ((result.toTask "go").entities ++ others) = .ok usage) ∧
      ∃ built, Reference.build ((result.toTask "go").entities ++ others) = .ok built := by
  let others := (Extraction.run bareFile .standard ["a.py"]).entities
  have hothers : ∀ e ∈ others, Extraction.Extracted e := by
    intro e he
    exact ⟨bareFile, .standard, ["a.py"], _, if_neg (by decide +kernel), he⟩
  have hread : ((resultOf? numberedUrl).map fun result =>
      let es := (result.toTask "go").entities
      es.all (isReadable (endpoints (es ++ others)))) = some true := by
    decide +kernel
  rcases Option.map_eq_some_iff.1 hread with ⟨result, hresult, hreadable⟩
  rcases exists_ofOutput_of_resultOf? "" (by decide +kernel) hresult with
    ⟨response, haccepted, hcarried⟩
  have hphases :=
    (phases_succeed_iff_external "go" result hothers).2 (List.all_eq_true.1 hreadable)
  exact ⟨response, result, others, haccepted, hcarried, hothers, by decide +kernel, hphases⟩

end Wire
end CrossAudit
