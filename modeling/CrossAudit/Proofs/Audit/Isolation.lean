import CrossAudit.Audit.Run
import CrossAudit.Proofs.Audit.Phase

/-!
# Phases are isolated from each other and from what was merged

Whatever the phases after the merge meet, they come to a report.  What was merged is in it as it
was, but for calls that are noted on entities; what a phase could not compute is missing as a
whole, and nothing else is missing on its account.

Main results:

- Theorem `exists_report_eq`: the report of a run in terms of what its phases compute.
- Theorem `filter_crossFindings`: the findings on schemas are those of a run without contracts.
- Theorem `conclude_isolated`: what a report keeps of the merged one, which errors it has, and what
  is left out of it when contracts or references fail.
-/

namespace CrossAudit
namespace Audit

variable {σ : Type} (o : Options) (archive : Option (Archive σ)) (s : Selection) (d : Dispatch)

/-! ## The report of a run -/

/-- What the languages of a run came to, merged. -/
def mergedReport : Report :=
  Report.merge o.minSeverity d.results

/-- The report of a run. -/
def finalReport : Report :=
  (conclude o archive s d).1.report

/-- The error of a run that was cancelled. -/
def cancellation (cancelled : Bool) : List ErrorRecord :=
  if cancelled then
    [{ error := "Analysis cancelled; partial results returned", kind := "cancelled" }]
  else []

theorem noteCancellation_eq (cancelled : Bool) (r : Report) :
    noteCancellation cancelled r = { r with errors := r.errors ++ cancellation cancelled } := by
  cases cancelled with
  | false =>
      simp only [noteCancellation, cancellation, Bool.false_eq_true, if_false, List.append_nil]
  | true => rfl

/-- The report of a run in terms of what its phases compute. -/
theorem exists_report_eq :
    ∃ usage calls graph count, finalReport o archive s d =
        { mergedReport o d with
          entities := (built o (mergedReport o d).entities).2
          errors := s.errors ++ (mergedReport o d).errors ++
            phaseErrors o archive (mergedReport o d).entities ++ cancellation d.signal.raised
          crossFindings := Report.graveEnough o.minSeverity
            (contractFindings o (mergedReport o d).entities ++
              schemaFindings o (mergedReport o d).entities)
          references := if o.references then (built o (mergedReport o d).entities).1 else []
          graph := graph
          contracts := usage
          metrics := { (mergedReport o d).metrics with
            contractsChecked := calls
            crossLanguageReferences := count }
          features := statuses (featureStatus o archive (mergedReport o d).entities) } ∧
      (Fails (Contract.validate (mergedReport o d).entities) → usage = []) ∧
      (Fails (Reference.build (mergedReport o d).entities) → graph = none) := by
  have hstart : (mergedReport o d).crossFindings = [] ∧ (mergedReport o d).references = [] ∧
      (mergedReport o d).graph = none ∧ (mergedReport o d).contracts = [] :=
    ⟨rfl, rfl, rfl, rfl⟩
  have hreport : finalReport o archive s d =
      noteCancellation d.signal.raised (phases o archive
        { mergedReport o d with errors := s.errors ++ (mergedReport o d).errors }).1 :=
    rfl
  rcases exists_phases_eq o archive
    (r := { mergedReport o d with errors := s.errors ++ (mergedReport o d).errors })
    hstart.1 hstart.2.1 hstart.2.2.1 with ⟨usage, calls, graph, count, hphases, husage, hgraph⟩
  refine ⟨usage, calls, graph, count, ?_, husage, hgraph⟩
  rw [hreport, hphases, noteCancellation_eq]

/-! ## Findings across languages -/

/-- Whether a finding is one on schemas. -/
def isSchemaFinding (f : Finding) : Bool :=
  f.analyzer == "schema-consistency"

theorem analyzer_of_mem_contractFindings {entities : List Entity} {f : Finding}
    (h : f ∈ contractFindings o entities) : f.analyzer = "api-contract" := by
  unfold contractFindings yielded at h
  split at h
  · rename_i findings _ hvalidate
    exact Contract.analyzer_of_mem_validate hvalidate h
  · cases h

theorem analyzer_of_mem_schemaFindings {entities : List Entity} {f : Finding}
    (h : f ∈ schemaFindings o entities) : f.analyzer = "schema-consistency" := by
  unfold schemaFindings yielded at h
  split at h
  · rename_i findings _ hcheck
    unfold checkSchemas at hcheck
    rw [bind_eq_ok_iff] at hcheck
    rcases hcheck with ⟨strict, _, hcheck⟩
    rw [bind_eq_ok_iff] at hcheck
    rcases hcheck with ⟨additional, _, hcheck⟩
    cases hcheck
    exact Schema.analyzer_of_mem_validate h
  · cases h

theorem crossFindings_eq :
    (finalReport o archive s d).crossFindings =
      Report.graveEnough o.minSeverity
        (contractFindings o (mergedReport o d).entities ++
          schemaFindings o (mergedReport o d).entities) := by
  rcases exists_report_eq o archive s d with ⟨usage, calls, graph, count, heq, _⟩
  rw [heq]

/-- The findings on schemas are those of a run without contracts. -/
theorem filter_crossFindings :
    (finalReport o archive s d).crossFindings.filter isSchemaFinding =
      (finalReport { o with contracts := false } archive s d).crossFindings := by
  have hcontracts :
      (contractFindings o (mergedReport o d).entities).filter isSchemaFinding = [] := by
    rw [List.filter_eq_nil_iff]
    intro f hf
    simp [isSchemaFinding, analyzer_of_mem_contractFindings o hf]
  have hschemas : (schemaFindings o (mergedReport o d).entities).filter isSchemaFinding =
      schemaFindings o (mergedReport o d).entities := by
    rw [List.filter_eq_self]
    intro f hf
    simp [isSchemaFinding, analyzer_of_mem_schemaFindings o hf]
  have hoff : contractFindings { o with contracts := false } (mergedReport o d).entities = [] := by
    simp only [contractFindings, Bool.and_false, yielded]
  have hwithout : (finalReport { o with contracts := false } archive s d).crossFindings =
      Report.graveEnough o.minSeverity
        (contractFindings { o with contracts := false } (mergedReport o d).entities ++
          schemaFindings o (mergedReport o d).entities) :=
    crossFindings_eq { o with contracts := false } archive s d
  rw [crossFindings_eq, hwithout, hoff, Report.graveEnough, List.filter_comm, List.filter_append,
    hcontracts, hschemas]
  rfl

/-! ## Isolation -/

/-- What a run keeps of its merged report, and what the failure of a phase takes from it. -/
structure Isolated : Prop where
  features : (finalReport o archive s d).features =
    Feature.all.map fun f => (f, featureStatus o archive (mergedReport o d).entities f)
  findings : (finalReport o archive s d).findings = (mergedReport o d).findings
  stats : (finalReport o archive s d).stats = (mergedReport o d).stats
  totalFiles :
    (finalReport o archive s d).metrics.totalFiles = (mergedReport o d).metrics.totalFiles
  totalFindings :
    (finalReport o archive s d).metrics.totalFindings = (mergedReport o d).metrics.totalFindings
  entities : List.Forall₂ Reference.Noted (mergedReport o d).entities
    (finalReport o archive s d).entities
  errors : (finalReport o archive s d).errors =
    s.errors ++ (mergedReport o d).errors ++ phaseErrors o archive (mergedReport o d).entities ++
      cancellation d.signal.raised
  schemas_apart : (finalReport o archive s d).crossFindings.filter isSchemaFinding =
    (finalReport { o with contracts := false } archive s d).crossFindings
  contracts_fail : Fails (Contract.validate (mergedReport o d).entities) →
    (finalReport o archive s d).statusOf? .apiContracts =
        some (if o.crossLanguage && o.contracts then .failed else .disabled) ∧
      (finalReport o archive s d).contracts = [] ∧
      ∀ f ∈ (finalReport o archive s d).crossFindings, f.analyzer ≠ "api-contract"
  references_fail : Fails (Reference.build (mergedReport o d).entities) →
    (finalReport o archive s d).statusOf? .crossReferences =
        some (if o.references then .failed else .disabled) ∧
      (finalReport o archive s d).statusOf? .dependencyGraph =
        some (if o.graph then .skipped else .disabled) ∧
      (finalReport o archive s d).references = [] ∧
      (finalReport o archive s d).graph = none ∧
      (finalReport o archive s d).entities = (mergedReport o d).entities

theorem noted_built (entities : List Entity) :
    List.Forall₂ Reference.Noted entities (built o entities).2 := by
  unfold built yielded
  split
  · rename_i p _ hbuild
    exact Reference.noted_build hbuild
  · exact List.forall₂_same.2 fun e _ => Reference.Noted.refl e

theorem not_contract_of_fails {entities : List Entity} (h : Fails (Contract.validate entities))
    {f : Finding}
    (hf : f ∈ Report.graveEnough o.minSeverity
      (contractFindings o entities ++ schemaFindings o entities)) :
    f.analyzer ≠ "api-contract" := by
  have hnone : contractFindings o entities = [] := yielded_of_fails h _ []
  rw [hnone, List.nil_append] at hf
  rw [analyzer_of_mem_schemaFindings o (List.mem_of_mem_filter hf)]
  decide

theorem statusOf?_finalReport (f : Feature) :
    (finalReport o archive s d).statusOf? f =
      some (featureStatus o archive (mergedReport o d).entities f) := by
  rcases exists_report_eq o archive s d with ⟨usage, calls, graph, count, heq, _⟩
  rw [heq]
  exact lookup_statuses f _

/-- Contracts that cannot be checked leave no finding and no summary. -/
theorem contracts_of_fails (h : Fails (Contract.validate (mergedReport o d).entities)) :
    (finalReport o archive s d).statusOf? .apiContracts =
        some (if o.crossLanguage && o.contracts then .failed else .disabled) ∧
      (finalReport o archive s d).contracts = [] ∧
      ∀ f ∈ (finalReport o archive s d).crossFindings, f.analyzer ≠ "api-contract" := by
  rcases exists_report_eq o archive s d with ⟨usage, calls, graph, count, heq, husage, _⟩
  refine ⟨?_, ?_, ?_⟩
  · rw [statusOf?_finalReport, featureStatus, verdict_of_fails h]
  · rw [heq, husage h]
  · rw [crossFindings_eq]
    exact fun f hf => not_contract_of_fails o h hf

/-- References that cannot be built leave no reference, no graph and no noted call. -/
theorem references_of_fails (h : Fails (Reference.build (mergedReport o d).entities)) :
    (finalReport o archive s d).statusOf? .crossReferences =
        some (if o.references then .failed else .disabled) ∧
      (finalReport o archive s d).statusOf? .dependencyGraph =
        some (if o.graph then .skipped else .disabled) ∧
      (finalReport o archive s d).references = [] ∧
      (finalReport o archive s d).graph = none ∧
      (finalReport o archive s d).entities = (mergedReport o d).entities := by
  rcases exists_report_eq o archive s d with ⟨usage, calls, graph, count, heq, _, hgraph⟩
  have hbuilt : built o (mergedReport o d).entities = ([], (mergedReport o d).entities) :=
    yielded_of_fails h _ _
  refine ⟨?_, ?_, ?_, ?_, ?_⟩
  · rw [statusOf?_finalReport, featureStatus, verdict_of_fails h]
  · rw [statusOf?_finalReport, featureStatus, graphVerdict_of_fails o h]
  · rw [heq, hbuilt, ite_self]
  · rw [heq, hgraph h]
  · rw [heq, hbuilt]

/-- The phases after the merge come to a report, and the run to its end.  The report has a status
for each feature; it has what was merged, but for calls that are noted on entities; its errors are
those of the selection, of the languages, of each phase that failed, and of the cancellation, in
this order.  Findings on schemas do not depend on contracts, and a phase that fails leaves nothing
behind but its error. -/
theorem conclude_isolated :
    Isolated o archive s d ∧
      ∀ (files : List String) (signal : Signal) (l l' : Launcher),
        select (candidates o.languages (Discovery.groupByLanguage l.registry files)) l =
            (.ok s, l') →
          analyze o (Discovery.groupByLanguage l.registry files) s.languages signal l' = .ok d →
          (runOn o files signal archive l).outcome =
            .ok ⟨finalReport o archive s d, d.progress, d.signal.raised⟩ := by
  rcases exists_report_eq o archive s d with ⟨usage, calls, graph, count, heq, _⟩
  constructor
  · exact
      { features := by rw [heq]; rfl
        findings := by rw [heq]
        stats := by rw [heq]
        totalFiles := by rw [heq]
        totalFindings := by rw [heq]
        entities := by rw [heq]; exact noted_built o _
        errors := by rw [heq]
        schemas_apart := filter_crossFindings o archive s d
        contracts_fail := contracts_of_fails o archive s d
        references_fail := references_of_fails o archive s d }
  · intro files signal l l' hselect hanalyze
    simp only [runOn, hselect, hanalyze]
    rfl

/-- An entity whose notes on requests are no list. -/
def brokenClient : Entity :=
  { id := "typescript:load", name := "load", language := "typescript", file := "client.ts"
    type := "function", startLine := 1, endLine := 9, metadata := [("api_calls", .int 5)] }

/-- A cancelled run over that entity. -/
def brokenDispatch : Dispatch :=
  { results := [{ language := "typescript", entities := [brokenClient] }]
    signal := { raised := true }
    launcher := default }

/-- An archive that refuses every update. -/
def fullArchive : Archive Nat :=
  { state := 0, write := fun _ _ _ => .error "disk full" }

/-- Options that ask for all phases. -/
def allPhases : Options :=
  { references := true, graph := true, index := true }

theorem conclude_isolated_broken :
    Fails (Contract.validate (mergedReport allPhases brokenDispatch).entities) ∧
      Fails (Reference.build (mergedReport allPhases brokenDispatch).entities) ∧
      (finalReport allPhases (some fullArchive) {} brokenDispatch).contracts = [] ∧
      (finalReport allPhases (some fullArchive) {} brokenDispatch).graph = none ∧
      (finalReport allPhases (some fullArchive) {} brokenDispatch).errors.map (·.kind) =
        ["validation", "analysis", "index", "cancelled"] := by
  have hentities : (mergedReport allPhases brokenDispatch).entities = [brokenClient] := by
    simp [mergedReport, Report.merge, Report.mergeBy, Report.inLanguageOrder, brokenDispatch]
  have herrors : (mergedReport allPhases brokenDispatch).errors = [] := by
    simp [mergedReport, Report.merge, Report.mergeBy, Report.inLanguageOrder, brokenDispatch]
  have hcontracts : Fails (Contract.validate (mergedReport allPhases brokenDispatch).entities) := by
    rw [hentities]
    exact ⟨.notIterable "int", rfl⟩
  have hreferences : Fails (Reference.build (mergedReport allPhases brokenDispatch).entities) := by
    rw [hentities]
    exact ⟨.notIterable "int", rfl⟩
  have h := (conclude_isolated allPhases (some fullArchive) {} brokenDispatch).1
  refine ⟨hcontracts, hreferences, (h.contracts_fail hcontracts).2.1,
    (h.references_fail hreferences).2.2.2.1, ?_⟩
  rw [h.errors, hentities, herrors]
  rfl

end Audit
end CrossAudit
