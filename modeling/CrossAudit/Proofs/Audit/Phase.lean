import CrossAudit.Audit.Phase
import CrossAudit.Proofs.Failing
import Mathlib.Data.List.Forall2
import Mathlib.Logic.Function.Basic

/-!
# What a phase does to a report

Each phase across languages either adds what it computes or adds one error, and leaves all other
parts of a report in place.  The check of contracts adds its results one after the other; it cannot
stop between them, since whatever the later steps read was read by the first one.

Main results:

- Theorem `Reference.noted_build`: building references changes entities in their calls and callers
  only, and only by adding to them.
- Theorem `Contract.exists_summarize_of_validate`: what can be validated can be summarized.
- Theorems `exists_crossStage_eq`, `exists_referenceStage_eq`, `indexStage_eq`: a report after each
  stage of a run, in terms of what the stage computes.
-/

namespace CrossAudit

/-! ## Entities with their calls noted -/

namespace Reference

/-- An entity and what it becomes when calls are noted on it. -/
def Noted (e e' : Entity) : Prop :=
  ∃ calls callers, e' = { e with calls := e.calls ++ calls, calledBy := e.calledBy ++ callers }

/-- An entity has been noted without any calls. -/
theorem Noted.refl (e : Entity) : Noted e e :=
  ⟨[], [], by simp⟩

/-- Calls that are noted one after another are noted together. -/
theorem Noted.trans {a b c : Entity} (hab : Noted a b) (hbc : Noted b c) : Noted a c := by
  rcases hab with ⟨calls, callers, rfl⟩
  rcases hbc with ⟨calls', callers', rfl⟩
  exact ⟨calls ++ calls', callers ++ callers', by simp⟩

/-- To add a name appends at most that name. -/
theorem exists_addName_eq_append (name : String) (names : List String) :
    ∃ added, addName name names = names ++ added := by
  unfold addName
  split
  · exact ⟨[], by simp⟩
  · exact ⟨[name], rfl⟩

/-- Changing the last entity of a name relates all entities to what they become. -/
theorem forall₂_changeLast {R : Entity → Entity → Prop} (hrefl : ∀ e, R e e) {f : Entity → Entity}
    (hf : ∀ e, R e (f e)) (id : String) (entities : List Entity) :
    List.Forall₂ R entities (changeLast id f entities) := by
  have hgo : ∀ es, List.Forall₂ R es (changeLast.go id f es) := by
    intro es
    induction es with
    | nil => exact .nil
    | cons e rest ih =>
        unfold changeLast.go
        split
        · exact .cons (hf e) (List.forall₂_same.2 fun e' _ => hrefl e')
        · exact .cons (hrefl e) ih
  have hreverse := List.forall₂_reverse_iff.2 (hgo entities.reverse)
  rwa [List.reverse_reverse] at hreverse

/-- Notes on all entities of a list add up. -/
theorem forall₂_noted_trans {as bs cs : List Entity} (hab : List.Forall₂ Noted as bs)
    (hbc : List.Forall₂ Noted bs cs) : List.Forall₂ Noted as cs := by
  induction hab generalizing cs with
  | nil => exact hbc
  | cons h _ ih =>
      cases hbc with
      | cons h' hrest => exact .cons (h.trans h') (ih hrest)

/-- Noting one call only adds to the links of entities. -/
theorem noted_noteCall (entities : List Entity) (r : Reference) :
    List.Forall₂ Noted entities (noteCall entities r) := by
  unfold noteCall
  split
  · refine forall₂_noted_trans (forall₂_changeLast Noted.refl (fun e => ?_) _ _)
      (forall₂_changeLast Noted.refl (fun e => ?_) _ _)
    · rcases exists_addName_eq_append r.targetId e.calls with ⟨added, h⟩
      exact ⟨added, [], by simp [h]⟩
    · rcases exists_addName_eq_append r.sourceId e.calledBy with ⟨added, h⟩
      exact ⟨[], added, by simp [h]⟩
  · exact List.forall₂_same.2 fun e _ => Noted.refl e

/-- Building references changes entities in their calls and callers only. -/
theorem noted_build {entities after : List Entity} {references : List Reference}
    (h : build entities = .ok (references, after)) : List.Forall₂ Noted entities after := by
  unfold build at h
  rw [bind_eq_ok_iff] at h
  rcases h with ⟨found, _, h⟩
  cases h
  -- Each reference notes at most one call, on what the ones before it left.
  generalize strongest found = references
  have hrun : ∀ es, List.Forall₂ Noted entities es →
      List.Forall₂ Noted entities (references.foldl noteCall es) := by
    induction references with
    | nil => exact fun es hes => hes
    | cons r rest ih =>
        exact fun es hes => ih (noteCall es r) (forall₂_noted_trans hes (noted_noteCall es r))
  exact hrun entities (List.forall₂_same.2 fun e _ => Noted.refl e)

end Reference

/-! ## Where findings come from -/

namespace Contract

/-- Every finding carries the name of its check. -/
@[grind =]
theorem analyzer_finding (call : CallSite) (endpoint : Option Entity)
    (rule severity message fix : String) (details : List (String × Json)) :
    (finding call endpoint rule severity message fix details).analyzer = "api-contract" :=
  rfl

/-- What a pairing is criticised for carries the name of the check of contracts. -/
theorem analyzer_of_mem_check {p : Pairing} {found : List Finding} {f : Finding}
    (h : check p = .ok found) (hf : f ∈ found) : f.analyzer = "api-contract" := by
  unfold check at h
  split at h
  · cases h
    grind [missingEndpoint]
  · cases h
    grind [methodMismatch]
  · rw [bind_eq_ok_iff] at h
    rcases h with ⟨expected, _, h⟩
    cases h
    rcases List.mem_append.1 hf with hf | hf
    · rcases List.mem_append.1 hf with hf | hf
      · unfold typeMismatch at hf
        split at hf
        · grind
        · cases hf
      · grind [deprecation]
    · grind [missingAuth]

/-- The findings on requests name the check of contracts. -/
theorem analyzer_of_mem_validate {entities : List Entity} {findings : List Finding} {f : Finding}
    (h : validate entities = .ok findings) (hf : f ∈ findings) : f.analyzer = "api-contract" := by
  unfold validate at h
  rw [bind_eq_ok_iff] at h
  rcases h with ⟨pairs, _, h⟩
  rcases exists_of_mem_flatten_mapM h hf with ⟨p, _, found, hcheck, hf⟩
  exact analyzer_of_mem_check hcheck hf

/-- What can be validated can be summarized, and its requests can be counted. -/
theorem exists_summarize_of_validate {entities : List Entity} {findings : List Finding}
    (h : validate entities = .ok findings) :
    ∃ usage sites, summarize entities = .ok usage ∧ callSites entities = .ok sites := by
  unfold validate at h
  rw [bind_eq_ok_iff] at h
  rcases h with ⟨pairs, hpairs, _⟩
  have hsites := hpairs
  unfold pair at hsites
  rw [bind_eq_ok_iff] at hsites
  rcases hsites with ⟨sites, hsites, _⟩
  have hsummary : ∃ usage, summarize entities = .ok usage := by
    rw [summarize, hpairs]
    exact ⟨_, rfl⟩
  rcases hsummary with ⟨usage, hsummary⟩
  exact ⟨usage, sites, hsummary, hsites⟩

end Contract

namespace Schema

/-- Every finding carries the name of its check. -/
@[grind =]
theorem analyzer_finding (target other : Entity) (rule severity message : String)
    (fix : Option String) (field : String) (details : List (String × Json)) :
    (finding target other rule severity message fix field details).analyzer =
      "schema-consistency" :=
  rfl

/-- What two entities are criticised for carries the name of the check of schemas. -/
theorem analyzer_of_mem_compare {o : Options} {reference current : Entity} {f : Finding}
    (h : f ∈ compare o reference current) : f.analyzer = "schema-consistency" := by
  rcases List.mem_append.1 h with h | h
  · rcases List.mem_flatMap.1 h with ⟨⟨name, refField⟩, _, h⟩
    grind [typeDrift, missing]
  · rcases List.mem_flatMap.1 h with ⟨⟨name, curField⟩, _, h⟩
    grind [missing]

/-- The findings on shapes name the check of schemas. -/
theorem analyzer_of_mem_validate {o : Options} {entities : List Entity} {f : Finding}
    (h : f ∈ validate o entities) : f.analyzer = "schema-consistency" := by
  rcases List.mem_flatMap.1 h with ⟨g, _, h⟩
  unfold compareGroup at h
  split at h
  · cases h
  · rcases List.mem_flatMap.1 h with ⟨current, _, h⟩
    exact analyzer_of_mem_compare h

end Schema

namespace Audit

/-! ## What comes of a phase -/

section Outcome

variable {ε α : Type}

/-- What a phase yields: nothing if it is not asked for or fails. -/
def yielded (asked : Bool) (outcome : Except ε α) (nothing : α) : α :=
  match asked, outcome with
  | true, .ok a => a
  | _, _ => nothing

/-- The errors of a phase: one if it is asked for and fails. -/
def failures (asked : Bool) (kind : String) (wording : ε → String) (outcome : Except ε α) :
    List ErrorRecord :=
  match asked, outcome with
  | true, .error e => [{ error := wording e, kind := kind }]
  | _, _ => []

/-- How a phase went. -/
def verdict (asked : Bool) (outcome : Except ε α) : FeatureStatus :=
  match asked, outcome with
  | false, _ => .disabled
  | true, .ok _ => .completed
  | true, .error _ => .failed

/-- A phase that fails yields nothing. -/
theorem yielded_of_fails {outcome : Except ε α} (h : Fails outcome) (asked : Bool) (nothing : α) :
    yielded asked outcome nothing = nothing := by
  rcases h with ⟨e, rfl⟩
  cases asked <;> rfl

/-- A phase that fails has failed if it was asked for. -/
theorem verdict_of_fails {outcome : Except ε α} (h : Fails outcome) (asked : Bool) :
    verdict asked outcome = if asked then .failed else .disabled := by
  rcases h with ⟨e, rfl⟩
  cases asked <;> rfl

end Outcome

/-- The table of features with a status for each. -/
def statuses (status : Feature → FeatureStatus) : List (Feature × FeatureStatus) :=
  Feature.all.map fun f => (f, status f)

/-- Setting the status of one feature updates it and no other. -/
theorem set_statuses (f : Feature) (v : FeatureStatus) (status : Feature → FeatureStatus) :
    Assoc.set f v (statuses status) = statuses (Function.update status f v) := by
  cases f <;> rfl

/-- Every feature has the status that is kept for it. -/
theorem lookup_statuses (f : Feature) (status : Feature → FeatureStatus) :
    (statuses status).lookup f = some (status f) := by
  cases f <;> rfl

/-- A disabled feature that is disabled again stays as it is. -/
theorem update_disabled {f : Feature} {status : Feature → FeatureStatus}
    (h : status f = .disabled) : Function.update status f .disabled = status := by
  rw [← h, Function.update_eq_self]

/-- Marking a feature only if it is asked for. -/
theorem mark_if_asked (asked : Bool) (f : Feature) (v : FeatureStatus) {r : Report}
    {status : Feature → FeatureStatus} (hr : r.features = statuses status)
    (hf : status f = .disabled) :
    (if asked then r.mark f v else r) =
      { r with
        features := statuses (Function.update status f (if asked then v else .disabled)) } := by
  cases asked with
  | false => simp only [Bool.false_eq_true, if_false, update_disabled hf, ← hr]
  | true => simp only [if_true, Report.mark, hr, set_statuses]

/-! ## Contracts and schemas -/

variable {status : Feature → FeatureStatus}

/-- The check of contracts fails before it has added anything, or not at all. -/
theorem contractPhase_cases (r : Report) :
    (∃ f, Contract.validate r.entities = .error f ∧ contractPhase r = withoutContracts r f) ∨
      ∃ findings usage calls, Contract.validate r.entities = .ok findings ∧
        contractPhase r =
          { r.mark .apiContracts .completed with
            crossFindings := r.crossFindings ++ findings
            contracts := usage
            metrics := { r.metrics with contractsChecked := calls } } := by
  cases hvalidate : Contract.validate r.entities with
  | error f =>
      refine Or.inl ⟨f, rfl, ?_⟩
      rw [contractPhase, hvalidate]
  | ok findings =>
      rcases Contract.exists_summarize_of_validate hvalidate with ⟨usage, sites, hsummary, hsites⟩
      refine Or.inr ⟨findings, usage, sites.length, rfl, ?_⟩
      simp only [contractPhase, hvalidate, hsummary, hsites]
      rfl

/-- The stage of contracts adds their findings, errors and status. -/
theorem exists_contractStage_eq (asked : Bool) {r : Report} (hr : r.features = statuses status)
    (hstatus : status .apiContracts = .disabled) :
    ∃ usage calls, (if asked then contractPhase r else r) =
        { r with
          crossFindings := r.crossFindings ++ yielded asked (Contract.validate r.entities) []
          contracts := usage
          metrics := { r.metrics with contractsChecked := calls }
          errors := r.errors ++
            failures asked "validation" contractWording (Contract.validate r.entities)
          features := statuses (Function.update status .apiContracts
            (verdict asked (Contract.validate r.entities))) } ∧
      (Fails (Contract.validate r.entities) → usage = r.contracts) := by
  cases asked with
  | false =>
      refine ⟨r.contracts, r.metrics.contractsChecked, ?_, fun _ => rfl⟩
      simp only [yielded, failures, verdict, List.append_nil, update_disabled hstatus, ← hr]
      rfl
  | true =>
      rcases contractPhase_cases r with ⟨f, hvalidate, heq⟩ |
        ⟨findings, usage, calls, hvalidate, heq⟩
      · refine ⟨r.contracts, r.metrics.contractsChecked, ?_, fun _ => rfl⟩
        rw [if_pos rfl, heq, hvalidate]
        simp only [withoutContracts, Report.mark, Report.addError, hr, set_statuses, yielded,
          failures, verdict, List.append_nil]
      · refine ⟨usage, calls, ?_, ?_⟩
        · rw [if_pos rfl, heq, hvalidate]
          simp only [Report.mark, hr, set_statuses, yielded, failures, verdict, List.append_nil]
        · rw [hvalidate]
          exact fun h => absurd h (not_fails_ok findings)

/-- The stage of schemas adds their findings, errors and status. -/
theorem schemaStage_eq (asked : Bool) (config : Json) {r : Report}
    (hr : r.features = statuses status) (hstatus : status .schemaConsistency = .disabled) :
    (if asked then schemaPhase config r else r) =
      { r with
        crossFindings := r.crossFindings ++ yielded asked (checkSchemas config r.entities) []
        errors := r.errors ++
          failures asked "validation" schemaWording (checkSchemas config r.entities)
        features := statuses (Function.update status .schemaConsistency
          (verdict asked (checkSchemas config r.entities))) } := by
  cases asked with
  | false =>
      simp only [yielded, failures, verdict, List.append_nil, update_disabled hstatus, ← hr]
      rfl
  | true =>
      rw [if_pos rfl]
      cases hcheck : checkSchemas config r.entities with
      | error f =>
          simp only [schemaPhase, hcheck, Report.mark, Report.addError, hr, set_statuses, yielded,
            failures, verdict, List.append_nil]
      | ok found =>
          simp only [schemaPhase, hcheck, Report.mark, hr, set_statuses, yielded, failures,
            verdict, List.append_nil]

/-- The findings of the contracts that a run asks for. -/
def contractFindings (o : Options) (entities : List Entity) : List Finding :=
  yielded (o.crossLanguage && o.contracts) (Contract.validate entities) []

/-- The findings of the schemas that a run asks for. -/
def schemaFindings (o : Options) (entities : List Entity) : List Finding :=
  yielded (o.crossLanguage && o.schemas) (checkSchemas o.config entities) []

/-- The errors of contracts and schemas. -/
def crossErrors (o : Options) (entities : List Entity) : List ErrorRecord :=
  failures (o.crossLanguage && o.contracts) "validation" contractWording
      (Contract.validate entities) ++
    failures (o.crossLanguage && o.schemas) "validation" schemaWording
      (checkSchemas o.config entities)

/-- How contracts and schemas went. -/
def crossStatus (o : Options) (entities : List Entity) : Feature → FeatureStatus :=
  Function.update (Function.update (Function.update (fun _ => .disabled)
    .apiContracts (verdict (o.crossLanguage && o.contracts) (Contract.validate entities)))
    .schemaConsistency (verdict (o.crossLanguage && o.schemas) (checkSchemas o.config entities)))
    .crossLanguage (if o.crossLanguage then .completed else .disabled)

/-- A report after the checks across languages. -/
theorem exists_crossStage_eq (o : Options) {r : Report}
    (hr : r.features = statuses fun _ => .disabled) (hnone : r.crossFindings = []) :
    ∃ usage calls, (if o.crossLanguage then crossPhase o r else r) =
        { r with
          crossFindings := Report.graveEnough o.minSeverity
            (contractFindings o r.entities ++ schemaFindings o r.entities)
          contracts := usage
          metrics := { r.metrics with contractsChecked := calls }
          errors := r.errors ++ crossErrors o r.entities
          features := statuses (crossStatus o r.entities) } ∧
      (Fails (Contract.validate r.entities) → usage = r.contracts) := by
  cases hcross : o.crossLanguage with
  | false =>
      have hstatus : crossStatus o r.entities = fun _ => .disabled := by
        simp only [crossStatus, hcross, Bool.false_and, verdict, Bool.false_eq_true, if_false]
        rw [update_disabled rfl, update_disabled rfl, update_disabled rfl]
      have hfound : Report.graveEnough o.minSeverity
          (contractFindings o r.entities ++ schemaFindings o r.entities) = r.crossFindings := by
        rw [contractFindings, schemaFindings, hcross, hnone]
        rfl
      have herrors : crossErrors o r.entities = [] := by
        rw [crossErrors, hcross]
        rfl
      refine ⟨r.contracts, r.metrics.contractsChecked, ?_, fun _ => rfl⟩
      rw [hfound, herrors, hstatus, List.append_nil, ← hr]
      rfl
  | true =>
      rcases exists_contractStage_eq o.contracts hr rfl with ⟨usage, calls, heq, hfails⟩
      refine ⟨usage, calls, ?_, hfails⟩
      rw [if_pos rfl, crossPhase, heq, schemaStage_eq o.schemas o.config rfl rfl]
      simp only [Report.mark, set_statuses, crossStatus, contractFindings, schemaFindings,
        crossErrors, hcross, Bool.true_and, if_true, hnone, List.nil_append, List.append_assoc]

/-! ## References and graph -/

/-- The references that a run asks for, and the entities with their calls noted; no references and
the entities as they are if there is nothing to build or it fails. -/
def built (o : Options) (entities : List Entity) : List Reference × List Entity :=
  yielded o.needsReferences (Reference.build entities) ([], entities)

/-- How the graph went: it is skipped if there are no references to build it from. -/
def graphVerdict (o : Options) (entities : List Entity) : FeatureStatus :=
  match o.graph, Reference.build entities with
  | false, _ => .disabled
  | true, .ok _ => .completed
  | true, .error _ => .skipped

/-- If the references fail, the graph is skipped. -/
theorem graphVerdict_of_fails (o : Options) {entities : List Entity}
    (h : Fails (Reference.build entities)) :
    graphVerdict o entities = if o.graph then .skipped else .disabled := by
  rcases h with ⟨f, hf⟩
  rw [graphVerdict, hf]
  cases o.graph <;> rfl

/-- How references and the graph went. -/
def referenceStatus (o : Options) (entities : List Entity) (status : Feature → FeatureStatus) :
    Feature → FeatureStatus :=
  Function.update (Function.update status .crossReferences
    (verdict o.references (Reference.build entities))) .dependencyGraph (graphVerdict o entities)

/-- A report without references has one more error, and tells which features lack them. -/
theorem withoutReferences_eq (o : Options) {r : Report} {f : Fault}
    (hr : r.features = statuses status) (hreferences : status .crossReferences = .disabled)
    (hgraph : status .dependencyGraph = .disabled)
    (hbuild : Reference.build r.entities = .error f) :
    withoutReferences o r f =
      { r with
        errors := r.errors ++ [{ error := referenceWording f, kind := "analysis" }]
        features := statuses (referenceStatus o r.entities status) } := by
  have hstatus : referenceStatus o r.entities status =
      Function.update (Function.update status .crossReferences
        (if o.references then .failed else .disabled)) .dependencyGraph
        (if o.graph then .skipped else .disabled) := by
    rw [referenceStatus, verdict_of_fails ⟨f, hbuild⟩, graphVerdict_of_fails o ⟨f, hbuild⟩]
  have hr' : (r.addError "analysis" (referenceWording f)).features = statuses status := hr
  rw [hstatus, withoutReferences,
    mark_if_asked o.references .crossReferences .failed hr' hreferences,
    mark_if_asked o.graph .dependencyGraph .skipped rfl (by simpa using hgraph)]
  rfl

/-- Adding references fills in the links, the references and their status. -/
theorem addReferences_eq (o : Options) {r : Report} (references : List Reference)
    (entities : List Entity) (hr : r.features = statuses status)
    (hreferences : status .crossReferences = .disabled) (hnone : r.references = []) :
    addReferences o r references entities =
      { r with
        entities := entities
        references := if o.references then references else []
        metrics := { r.metrics with
          crossLanguageReferences := references.countP Reference.isCrossLanguage }
        features := statuses (Function.update status .crossReferences
          (if o.references then .completed else .disabled)) } := by
  cases hasked : o.references with
  | false =>
      simp only [addReferences, hasked, Bool.false_eq_true, if_false, update_disabled hreferences,
        ← hr, ← hnone]
  | true => simp only [addReferences, hasked, if_true, Report.mark, hr, set_statuses]

/-- Adding the graph fills in the graph and its status. -/
theorem exists_addGraph_eq (o : Options) {r : Report} (references : List Reference)
    (hr : r.features = statuses status) (hgraph : status .dependencyGraph = .disabled) :
    ∃ graph, addGraph o r references =
      { r with
        graph := graph
        features := statuses (Function.update status .dependencyGraph
          (if o.graph then .completed else .disabled)) } := by
  cases hasked : o.graph with
  | false =>
      refine ⟨r.graph, ?_⟩
      simp only [addGraph, hasked, Bool.false_eq_true, if_false, update_disabled hgraph, ← hr]
  | true =>
      refine ⟨some (Graph.build { criticalLength := o.criticalLength } r.entities references), ?_⟩
      simp only [addGraph, hasked, if_true, Report.mark, hr, set_statuses]

/-- A report after references and the graph. -/
theorem exists_referenceStage_eq (o : Options) {r : Report} (hr : r.features = statuses status)
    (hreferences : status .crossReferences = .disabled)
    (hgraph : status .dependencyGraph = .disabled) (hnone : r.references = [])
    (hnone' : r.graph = none) :
    ∃ graph count, (if o.needsReferences then referencePhase o r else (r, [])) =
        ({ r with
           entities := (built o r.entities).2
           references := if o.references then (built o r.entities).1 else []
           graph := graph
           metrics := { r.metrics with crossLanguageReferences := count }
           errors := r.errors ++ failures o.needsReferences "analysis" referenceWording
             (Reference.build r.entities)
           features := statuses (referenceStatus o r.entities status) },
          (built o r.entities).1) ∧
      (Fails (Reference.build r.entities) → graph = none) := by
  cases hneeds : o.needsReferences with
  | false =>
      have hasked : o.references = false ∧ o.graph = false := by
        rwa [Options.needsReferences, Bool.or_eq_false_iff] at hneeds
      have hstatus : referenceStatus o r.entities status = status := by
        simp only [referenceStatus, graphVerdict, verdict, hasked.1, hasked.2,
          update_disabled hreferences, update_disabled hgraph]
      have hkept : (if o.references then (built o r.entities).1 else []) = r.references := by
        rw [hasked.1, hnone]
        rfl
      refine ⟨r.graph, r.metrics.crossLanguageReferences, ?_, fun _ => hnone'⟩
      rw [hkept, hstatus, ← hr]
      simp only [built, hneeds, yielded, failures, List.append_nil]
      rfl
  | true =>
      cases hbuild : Reference.build r.entities with
      | error f =>
          refine ⟨r.graph, r.metrics.crossLanguageReferences, ?_, fun _ => hnone'⟩
          rw [if_pos rfl, referencePhase, hbuild]
          simp only [withoutReferences_eq o hr hreferences hgraph hbuild, built, hneeds, hbuild,
            yielded, failures, ite_self, ← hnone]
      | ok p =>
          rcases p with ⟨references, entities⟩
          have hstatus : referenceStatus o r.entities status =
              Function.update (Function.update status .crossReferences
                (if o.references then .completed else .disabled)) .dependencyGraph
                (if o.graph then .completed else .disabled) := by
            rw [referenceStatus, graphVerdict, hbuild]
            cases o.references <;> cases o.graph <;> rfl
          rcases exists_addGraph_eq o references
            (congrArg Report.features (addReferences_eq o references entities hr hreferences hnone))
            (by simpa using hgraph) with ⟨graph, heq⟩
          refine ⟨graph, references.countP Reference.isCrossLanguage, ?_,
            fun h => absurd h (not_fails_ok _)⟩
          rw [addReferences_eq o references entities hr hreferences hnone] at heq
          rw [if_pos rfl, referencePhase, hbuild]
          simp only [addReferences_eq o references entities hr hreferences hnone, heq, hstatus,
            built, hneeds, hbuild, yielded, failures, List.append_nil]

/-! ## Index -/

variable {σ : Type}

/-- The error of an update of the index that is refused. -/
def indexErrors (o : Options) (archive : Option (Archive σ)) (entities : List Entity)
    (references : List Reference) : List ErrorRecord :=
  match archive with
  | none => []
  | some a => failures o.index "index" indexWording (a.write a.state entities references)

/-- How the update of the index went: it is skipped if there is none. -/
def indexVerdict (o : Options) (archive : Option (Archive σ)) (entities : List Entity)
    (references : List Reference) : FeatureStatus :=
  match archive with
  | none => if o.index then .skipped else .disabled
  | some a => verdict o.index (a.write a.state entities references)

/-- A report after the update of the index. -/
theorem indexStage_eq (o : Options) (archive : Option (Archive σ)) {r : Report}
    (references : List Reference) (hr : r.features = statuses status)
    (hindex : status .indexUpdate = .disabled) :
    (if o.index then indexPhase archive r references else (r, archive)).1 =
      { r with
        errors := r.errors ++ indexErrors o archive r.entities references
        features := statuses (Function.update status .indexUpdate
          (indexVerdict o archive r.entities references)) } := by
  cases hasked : o.index with
  | false =>
      have herrors : indexErrors o archive r.entities references = [] := by
        cases archive <;> simp only [indexErrors, hasked, failures]
      have hverdict : indexVerdict o archive r.entities references = .disabled := by
        cases archive <;> simp [indexVerdict, hasked, verdict]
      rw [herrors, hverdict, update_disabled hindex, List.append_nil, ← hr]
      rfl
  | true =>
      cases archive with
      | none =>
          simp only [if_true, indexPhase, Report.mark, hr, set_statuses, indexErrors, indexVerdict,
            hasked, List.append_nil]
      | some a =>
          cases hwrite : a.write a.state r.entities references with
          | ok state =>
              simp only [if_true, indexPhase, hwrite, Report.mark, hr, set_statuses, indexErrors,
                indexVerdict, hasked, failures, verdict, List.append_nil]
          | error reason =>
              simp only [if_true, indexPhase, hwrite, Report.mark, Report.addError, hr,
                set_statuses, indexErrors, indexVerdict, hasked, failures, verdict]

/-! ## All phases -/

/-- The errors of the phases, in the order in which they run. -/
def phaseErrors (o : Options) (archive : Option (Archive σ)) (entities : List Entity) :
    List ErrorRecord :=
  crossErrors o entities ++
    failures o.needsReferences "analysis" referenceWording (Reference.build entities) ++
    indexErrors o archive (built o entities).2 (built o entities).1

/-- How each feature went. -/
def featureStatus (o : Options) (archive : Option (Archive σ)) (entities : List Entity) :
    Feature → FeatureStatus
  | .crossLanguage => if o.crossLanguage then .completed else .disabled
  | .apiContracts => verdict (o.crossLanguage && o.contracts) (Contract.validate entities)
  | .schemaConsistency => verdict (o.crossLanguage && o.schemas) (checkSchemas o.config entities)
  | .crossReferences => verdict o.references (Reference.build entities)
  | .dependencyGraph => graphVerdict o entities
  | .indexUpdate => indexVerdict o archive (built o entities).2 (built o entities).1

/-- A report after all phases. -/
theorem exists_phases_eq (o : Options) (archive : Option (Archive σ)) {r : Report}
    (hfindings : r.crossFindings = []) (hreferences : r.references = []) (hgraph : r.graph = none) :
    ∃ usage calls graph count, (phases o archive r).1 =
        { r with
          entities := (built o r.entities).2
          errors := r.errors ++ phaseErrors o archive r.entities
          crossFindings := Report.graveEnough o.minSeverity
            (contractFindings o r.entities ++ schemaFindings o r.entities)
          references := if o.references then (built o r.entities).1 else []
          graph := graph
          contracts := usage
          metrics := { r.metrics with
            contractsChecked := calls
            crossLanguageReferences := count }
          features := statuses (featureStatus o archive r.entities) } ∧
      (Fails (Contract.validate r.entities) → usage = r.contracts) ∧
      (Fails (Reference.build r.entities) → graph = none) := by
  have hstatus : Function.update (referenceStatus o r.entities (crossStatus o r.entities))
      .indexUpdate (indexVerdict o archive (built o r.entities).2 (built o r.entities).1) =
        featureStatus o archive r.entities := by
    funext f
    cases f <;> simp [featureStatus, referenceStatus, crossStatus, Function.update]
  have hr : (withFeatures r).features = statuses fun _ => .disabled := rfl
  rcases exists_crossStage_eq o hr hfindings with ⟨usage, calls, hcross, husage⟩
  rw [phases]
  generalize (if o.crossLanguage then crossPhase o (withFeatures r) else withFeatures r) = r' at *
  rcases exists_referenceStage_eq o (congrArg Report.features hcross) rfl rfl
      ((congrArg Report.references hcross).trans hreferences)
      ((congrArg Report.graph hcross).trans hgraph) with ⟨graph, count, hstage, hnone⟩
  simp only [hstage]
  rw [indexStage_eq o archive _ rfl rfl]
  subst hcross
  refine ⟨usage, calls, graph, count, ?_, husage, hnone⟩
  simp only [phaseErrors, ← hstatus, ← List.append_assoc]
  rfl

end Audit
end CrossAudit
