import CrossAudit.Proofs.Audit.Isolation
import CrossAudit.Proofs.Report.Merge

/-!
# The minimum severity decides what is shown, and nothing else

Findings that are not grave enough are dropped in two places: where the results of languages are
merged, and after the checks across languages.  No phase of a run looks at findings, so that runs
with different minimum severities differ in their findings and in the numbers of these only.
Critical findings are never dropped.

Main results:

- Theorem `graveEnough_graveEnough`: a filter by a graver minimum makes one by a milder minimum
  superfluous.
- Theorem `unfound_phases`: the phases of a run do not look at findings.
- Theorem `hasCritical_finalReport`: whether a report has anything critical does not depend on what
  is dropped.
- Theorem `severity_monotone`: the reports and the courses of runs that differ in their minimum
  severity.
-/

namespace CrossAudit

/-! ## Filters by severity -/

/-- Nothing is graver than a critical finding. -/
theorem Severity.rank_le_critical (severity : String) : rank severity ≤ rank "critical" := by
  have hcritical : rank "critical" = 2 := by decide
  have hladder : ∀ entry ∈ ladder, entry.2 ≤ 2 := by decide
  rw [hcritical, rank]
  cases hlookup : ladder.lookup severity with
  | none => exact Nat.zero_le 2
  | some n => exact hladder _ ((Assoc.lookup_eq_some_iff_mem (by decide) severity n).1 hlookup)

namespace Report

variable {low high : String}

/-- A filter by a graver minimum makes one by a milder minimum superfluous. -/
theorem graveEnough_graveEnough (h : Severity.rank low ≤ Severity.rank high) (fs : List Finding) :
    graveEnough high (graveEnough low fs) = graveEnough high fs := by
  rw [graveEnough, graveEnough, List.filter_filter]
  refine List.filter_congr fun f _ => ?_
  simp only [Severity.atLeast, ← Bool.decide_and, decide_eq_decide, and_iff_left_iff_imp]
  exact h.trans

/-- A filter by severity keeps all critical findings. -/
theorem any_isCritical_graveEnough (minimum : String) (fs : List Finding) :
    (graveEnough minimum fs).any Finding.isCritical = fs.any Finding.isCritical := by
  rw [graveEnough, List.any_filter]
  refine List.any_congr rfl fun f => ?_
  cases hcritical : f.isCritical with
  | false => exact Bool.and_false _
  | true =>
      have hseverity : f.severity = "critical" := beq_iff_eq.1 hcritical
      rw [Severity.atLeast, hseverity, decide_eq_true (Severity.rank_le_critical minimum)]
      rfl

/-- The findings of a merged report are filtered as a whole. -/
theorem findings_merge (minimum : String) (results : List TaskResult) :
    (merge minimum results).findings =
      graveEnough minimum ((inLanguageOrder results).flatMap (·.findings)) := by
  rw [graveEnough, List.filter_flatMap]
  rfl

/-! ## Reports without findings -/

/-- A report without its findings and without their numbers. -/
def unfound (r : Report) : Report :=
  { r with
    findings := []
    crossFindings := []
    metrics := { r.metrics with totalFindings := 0 }
    stats := r.stats.map fun p => (p.1, { p.2 with findings := 0 }) }

/-- There is nothing more to take away from a report without findings. -/
theorem unfound_unfound (r : Report) : r.unfound.unfound = r.unfound := by
  simp [unfound, Function.comp_def]

/-- Reports of the same results differ in their findings only. -/
theorem unfound_merge (low high : String) (results : List TaskResult) :
    (merge low results).unfound = (merge high results).unfound := by
  -- Of the figures of a language, only the number of its findings depends on the minimum.
  simp only [unfound, merge, mergeBy, statsOf_eq, List.map_map]
  simp [figures_eq, Function.comp_def]

end Report

namespace Audit

/-! ## The phases of a run do not look at findings -/

/-- The phase of contracts does not look at findings that are there. -/
theorem unfound_contractPhase (r : Report) :
    (contractPhase r.unfound).unfound = (contractPhase r).unfound := by
  have hentities : r.unfound.entities = r.entities := rfl
  cases hvalidate : Contract.validate r.entities with
  | error f =>
      simp only [contractPhase, hentities, hvalidate]
      exact congrArg (withoutContracts · f) r.unfound_unfound
  | ok findings =>
      rcases Contract.exists_summarize_of_validate hvalidate with ⟨usage, calls, husage, hcalls⟩
      simp only [contractPhase, hentities, hvalidate, husage, hcalls]
      exact congrArg (fun r : Report =>
        { r.mark .apiContracts .completed with
          contracts := usage
          metrics := { r.metrics with contractsChecked := calls.length } }) r.unfound_unfound

/-- The phase of schemas does not look at findings that are there. -/
theorem unfound_schemaPhase (config : Json) (r : Report) :
    (schemaPhase config r.unfound).unfound = (schemaPhase config r).unfound := by
  have hentities : r.unfound.entities = r.entities := rfl
  cases hcheck : checkSchemas config r.entities with
  | error f =>
      simp only [schemaPhase, hentities, hcheck]
      exact congrArg (fun r : Report =>
        (r.addError "validation" (schemaWording f)).mark .schemaConsistency .failed)
        r.unfound_unfound
  | ok found =>
      simp only [schemaPhase, hentities, hcheck]
      exact congrArg (·.mark .schemaConsistency .completed) r.unfound_unfound

/-- The minimum severity bears on nothing but findings in the checks across languages. -/
theorem unfound_crossPhase (o : Options) (minimum : String) (r : Report) :
    (crossPhase { o with minSeverity := minimum } r.unfound).unfound =
      (crossPhase o r).unfound := by
  have hcontracts : (if o.contracts then contractPhase r.unfound else r.unfound).unfound =
      (if o.contracts then contractPhase r else r).unfound := by
    split
    · exact unfound_contractPhase r
    · exact r.unfound_unfound
  have hschemas : ∀ q q' : Report, q.unfound = q'.unfound →
      (if o.schemas then schemaPhase o.config q else q).unfound =
        (if o.schemas then schemaPhase o.config q' else q').unfound := by
    intro q q' h
    split
    · rw [← unfound_schemaPhase, h, unfound_schemaPhase]
    · exact h
  -- The filter comes last and changes findings only.
  exact congrArg (·.mark .crossLanguage .completed) (hschemas _ _ hcontracts)

/-- The phase of references does not look at findings. -/
theorem unfound_referencePhase (o : Options) (r : Report) :
    Prod.map Report.unfound id (referencePhase o r) = referencePhase o r.unfound := by
  have hentities : r.unfound.entities = r.entities := rfl
  unfold referencePhase
  rw [hentities]
  cases Reference.build r.entities with
  | error f =>
      unfold withoutReferences
      cases o.references <;> cases o.graph <;> rfl
  | ok p =>
      unfold addGraph addReferences
      cases o.references <;> cases o.graph <;> rfl

variable {σ : Type}

/-- The phase of the index does not look at findings. -/
theorem unfound_indexPhase (archive : Option (Archive σ)) (r : Report)
    (references : List Reference) :
    Prod.map Report.unfound id (indexPhase archive r references) =
      indexPhase archive r.unfound references := by
  have hentities : r.unfound.entities = r.entities := rfl
  cases archive with
  | none => rfl
  | some a =>
      simp only [indexPhase, hentities]
      cases a.write a.state r.entities references <;> rfl

/-- The phases that come after the checks across languages. -/
def laterPhases (o : Options) (archive : Option (Archive σ)) (r : Report) :
    Report × Option (Archive σ) :=
  let (r, references) := if o.needsReferences then referencePhase o r else (r, [])
  if o.index then indexPhase archive r references else (r, archive)

/-- The later phases do not look at findings. -/
theorem unfound_laterPhases (o : Options) (archive : Option (Archive σ)) (r : Report) :
    Prod.map Report.unfound id (laterPhases o archive r) = laterPhases o archive r.unfound := by
  have hreferences : (if o.needsReferences then referencePhase o r.unfound else (r.unfound, [])) =
      Prod.map Report.unfound id
        (if o.needsReferences then referencePhase o r else (r, [])) := by
    split
    · exact (unfound_referencePhase o r).symm
    · rfl
  unfold laterPhases
  rw [hreferences]
  rcases (if o.needsReferences then referencePhase o r else (r, [])) with ⟨q, references⟩
  dsimp only [Prod.map, id]
  split
  · exact unfound_indexPhase archive q references
  · rfl

/-- The phases of a run do not look at findings, and the minimum severity has no part in anything
else. -/
theorem unfound_phases (o : Options) (minimum : String) (archive : Option (Archive σ))
    (r : Report) :
    Prod.map Report.unfound id (phases { o with minSeverity := minimum } archive r.unfound) =
      Prod.map Report.unfound id (phases o archive r) := by
  have hcross : (if o.crossLanguage then
        crossPhase { o with minSeverity := minimum } (withFeatures r).unfound
        else (withFeatures r).unfound).unfound =
      (if o.crossLanguage then crossPhase o (withFeatures r) else withFeatures r).unfound := by
    split
    · exact unfound_crossPhase o minimum (withFeatures r)
    · exact (withFeatures r).unfound_unfound
  have hlater := congrArg (laterPhases o archive) hcross
  rw [← unfound_laterPhases, ← unfound_laterPhases] at hlater
  exact hlater

variable (o : Options) (archive : Option (Archive σ)) (s : Selection) (d : Dispatch)

/-! ## Runs with different minimum severities -/

/-- The report with which the phases of a run begin. -/
def startReport : Report :=
  { mergedReport o d with errors := s.errors ++ (mergedReport o d).errors }

/-- The report at the start depends on the minimal severity in its findings only. -/
theorem unfound_startReport (low high : String) :
    (startReport { o with minSeverity := low } s d).unfound =
      (startReport { o with minSeverity := high } s d).unfound :=
  congrArg (fun r : Report => { r with errors := s.errors ++ r.errors })
    (Report.unfound_merge low high d.results)

/-- Runs with different minimum severities differ in the findings of their reports only, and leave
the same archive behind. -/
theorem unfound_conclude (low high : String) :
    (finalReport { o with minSeverity := low } archive s d).unfound =
        (finalReport { o with minSeverity := high } archive s d).unfound ∧
      (conclude { o with minSeverity := low } archive s d).2 =
        (conclude { o with minSeverity := high } archive s d).2 := by
  have hphases :
      Prod.map Report.unfound id (phases { o with minSeverity := low } archive
        (startReport { o with minSeverity := low } s d)) =
      Prod.map Report.unfound id (phases { o with minSeverity := high } archive
        (startReport { o with minSeverity := high } s d)) := by
    rw [← unfound_phases { o with minSeverity := low } high, unfound_startReport o s d low high]
    exact unfound_phases { o with minSeverity := high } high archive _
  have hnote : ∀ r, (noteCancellation d.signal.raised r).unfound =
      noteCancellation d.signal.raised r.unfound := by
    intro r
    unfold noteCancellation
    split <;> rfl
  have hreport := congrArg (noteCancellation d.signal.raised ·.1) hphases
  have harchive := congrArg Prod.snd hphases
  dsimp only [Prod.map] at hreport
  rw [← hnote, ← hnote] at hreport
  exact ⟨hreport, harchive⟩

/-- What the languages found, whether it is shown or not. -/
def languageFindings : List Finding :=
  (Report.inLanguageOrder d.results).flatMap (·.findings)

/-- What the checks across languages found, whether it is shown or not. -/
def acrossFindings : List Finding :=
  contractFindings o (mergedReport o d).entities ++ schemaFindings o (mergedReport o d).entities

/-- The findings of the final report are those of the languages that are grave enough. -/
theorem findings_finalReport :
    (finalReport o archive s d).findings =
      Report.graveEnough o.minSeverity (languageFindings d) := by
  rcases exists_report_eq o archive s d with ⟨usage, calls, graph, count, heq, _⟩
  rw [heq]
  exact Report.findings_merge o.minSeverity d.results

/-- Whether a report has anything critical is whether anything critical was found. -/
theorem hasCritical_finalReport :
    (finalReport o archive s d).hasCritical =
      (languageFindings d ++ acrossFindings o d).any Finding.isCritical := by
  rw [Report.hasCritical, List.any_append, List.any_append, findings_finalReport,
    crossFindings_eq, Report.any_isCritical_graveEnough, Report.any_isCritical_graveEnough]
  rfl

/-- A report that shows of another one what is grave enough, and has everything else as it is. -/
structure Narrows (minimum : String) (wide narrow : Report) : Prop where
  findings : narrow.findings = Report.graveEnough minimum wide.findings
  crossFindings : narrow.crossFindings = Report.graveEnough minimum wide.crossFindings
  errors : narrow.errors = wide.errors
  entities : narrow.entities = wide.entities
  totalFiles : narrow.metrics.totalFiles = wide.metrics.totalFiles
  languagesAnalyzed : narrow.metrics.languagesAnalyzed = wide.metrics.languagesAnalyzed
  features : narrow.features = wide.features
  rest : narrow.unfound = wide.unfound

variable {low high : String}

/-- A report that differs from a wider one in the findings shown narrows it. -/
theorem Narrows.of_unfound {minimum : String} {wide narrow : Report}
    (hfindings : narrow.findings = Report.graveEnough minimum wide.findings)
    (hacross : narrow.crossFindings = Report.graveEnough minimum wide.crossFindings)
    (hrest : narrow.unfound = wide.unfound) : Narrows minimum wide narrow := by
  have herrors := congrArg Report.errors hrest
  have hentities := congrArg Report.entities hrest
  have hmetrics := congrArg Report.metrics hrest
  have hfeatures := congrArg Report.features hrest
  have hfiles := congrArg ReportMetrics.totalFiles hmetrics
  have hlanguages := congrArg ReportMetrics.languagesAnalyzed hmetrics
  exact ⟨hfindings, hacross, herrors, hentities, hfiles, hlanguages, hfeatures, hrest⟩

/-- A higher minimum narrows the final report. -/
theorem narrows_finalReport (h : Severity.rank low ≤ Severity.rank high) :
    Narrows high (finalReport { o with minSeverity := low } archive s d)
      (finalReport { o with minSeverity := high } archive s d) := by
  refine Narrows.of_unfound ?_ ?_ (unfound_conclude o archive s d high low).1
  · rw [findings_finalReport, findings_finalReport, Report.graveEnough_graveEnough h]
  · rw [crossFindings_eq, crossFindings_eq, Report.graveEnough_graveEnough h]
    rfl

/-- Whether there are critical findings does not depend on the minimal severity. -/
theorem hasCritical_eq (low high : String) :
    (finalReport { o with minSeverity := low } archive s d).hasCritical =
      (finalReport { o with minSeverity := high } archive s d).hasCritical := by
  rw [hasCritical_finalReport, hasCritical_finalReport]
  rfl

/-- Two runs that fail alike, or come to related reports and are the same otherwise. -/
structure SameCourse (R : Report → Report → Prop) (e e' : Ending σ) : Prop where
  launcher : e'.launcher = e.launcher
  archive : e'.archive = e.archive
  outcome : (∃ f, e.outcome = .error f ∧ e'.outcome = .error f) ∨
    ∃ out out', e.outcome = .ok out ∧ e'.outcome = .ok out' ∧ R out.report out'.report ∧
      out'.progress = out.progress ∧ out'.cancelled = out.cancelled

/-- Runs that differ in their minimum severity take the same course if it makes their reports
related. -/
theorem sameCourse_run {R : Report → Report → Prop}
    (hreports : ∀ s d, R (finalReport { o with minSeverity := low } archive s d)
      (finalReport { o with minSeverity := high } archive s d))
    (root : String) (signal : Signal) (l : Launcher) :
    SameCourse R (run { o with minSeverity := low } root signal archive l)
      (run { o with minSeverity := high } root signal archive l) := by
  unfold run runAfter
  dsimp only
  cases Discovery.search l.workspace root o.includes o.excludes with
  | error f => exact ⟨rfl, rfl, Or.inl ⟨.discovery f, rfl, rfl⟩⟩
  | ok files =>
      have hanalyze : ∀ minimum, analyze { o with minSeverity := minimum } = analyze o :=
        fun _ => rfl
      simp only [runOn, hanalyze]
      generalize Discovery.groupByLanguage l.registry files = groups
      rcases select (candidates o.languages groups) l with ⟨selection, l'⟩
      cases selection with
      | error f => exact ⟨rfl, rfl, Or.inl ⟨.fault f, rfl, rfl⟩⟩
      | ok s =>
          dsimp only
          cases analyze o groups s.languages signal l' with
          | error f => exact ⟨rfl, rfl, Or.inl ⟨.fault f, rfl, rfl⟩⟩
          | ok d =>
              exact ⟨rfl, (unfound_conclude o archive s d high low).2,
                Or.inr ⟨_, _, rfl, rfl, hreports s d, rfl, rfl⟩⟩

/-- If one minimum severity ranks no higher than another, a report with the second shows exactly
those findings of a report with the first that are grave enough for the second, in their order, and
has everything else as it is.  Whether anything is critical is the same for every minimum.  The same
goes for whole runs, which fail alike or take the same course. -/
theorem severity_monotone (h : Severity.rank low ≤ Severity.rank high) :
    Narrows high (finalReport { o with minSeverity := low } archive s d)
        (finalReport { o with minSeverity := high } archive s d) ∧
      (∀ minimum minimum',
        (finalReport { o with minSeverity := minimum } archive s d).hasCritical =
          (finalReport { o with minSeverity := minimum' } archive s d).hasCritical) ∧
      ∀ (root : String) (signal : Signal) (l : Launcher),
        SameCourse (fun wide narrow => Narrows high wide narrow ∧
            narrow.hasCritical = wide.hasCritical)
          (run { o with minSeverity := low } root signal archive l)
          (run { o with minSeverity := high } root signal archive l) := by
  refine ⟨narrows_finalReport o archive s d h, hasCritical_eq o archive s d, ?_⟩
  refine sameCourse_run o archive fun s d => ⟨narrows_finalReport o archive s d h, ?_⟩
  exact hasCritical_eq o archive s d high low

/-- A server with one route, and a client that asks for another one and uses a wrong method.  One
finding has a severity that is unknown. -/
def mixedDispatch : Dispatch :=
  { results :=
      [{ language := "python"
         findings := [{ file := "b.py", severity := "critical" },
           { file := "b.py", severity := "suggestion" }]
         entities :=
           [{ id := "python:GET /users", name := "GET /users", language := "python", file := "b.py"
              type := "endpoint", startLine := 1, endLine := 4, apiEndpoint := some "/users"
              apiMethod := some "GET" }]
         metrics := { filesAnalyzed := 2 } },
       { language := "typescript"
         findings := [{ file := "a.ts", severity := "grave" }, { file := "a.ts" }]
         entities :=
           [{ id := "typescript:load", name := "load", language := "typescript", file := "a.ts"
              type := "function", startLine := 1, endLine := 9
              metadata := [("api_calls", .arr [.obj [("url", .str "/orders")],
                .obj [("method", .str "PUT"), ("url", .str "/users")]])] }]
         metrics := { filesAnalyzed := 1 } }]
    signal := {}
    launcher := default }

/-- The report of these results. -/
def mixedReport (minimum : String) : Report :=
  finalReport { minSeverity := minimum } (some fullArchive) {} mixedDispatch

/-- A run with findings of two severities within a language and across languages: a higher minimum
leaves the critical ones, and an unknown one still tells that there are some. -/
theorem severity_monotone_mixed :
    Severity.rank "warning" ≤ Severity.rank "critical" ∧
      (mixedReport "warning").findings.map (·.severity) = ["critical", "warning"] ∧
      (mixedReport "warning").crossFindings.map (·.severity) = ["warning", "critical"] ∧
      (mixedReport "critical").findings.map (·.severity) = ["critical"] ∧
      (mixedReport "critical").crossFindings.map (·.severity) = ["critical"] ∧
      (mixedReport "critical").errors = (mixedReport "warning").errors ∧
      (mixedReport "critical").hasCritical = (mixedReport "unheard-of").hasCritical := by
  have hordered : Report.inLanguageOrder mixedDispatch.results = mixedDispatch.results :=
    List.mergeSort_of_pairwise (by decide +kernel)
  have hfindings : (mixedReport "warning").findings =
      Report.graveEnough "warning" (mixedDispatch.results.flatMap (·.findings)) := by
    rw [mixedReport, findings_finalReport, languageFindings, hordered]
  have hentities : (mergedReport { minSeverity := "warning" } mixedDispatch).entities =
      mixedDispatch.results.flatMap (·.entities) :=
    congrArg (List.flatMap TaskResult.entities) hordered
  have hacross : (mixedReport "warning").crossFindings.map (·.severity) =
      ["warning", "critical"] := by
    rw [mixedReport, crossFindings_eq, hentities]
    decide +kernel
  have hrank : Severity.rank "warning" ≤ Severity.rank "critical" := by decide
  have hmonotone := severity_monotone {} (some fullArchive) {} mixedDispatch hrank
  have hnarrows : Narrows "critical" (mixedReport "warning") (mixedReport "critical") :=
    hmonotone.1
  refine ⟨hrank, ?_, hacross, ?_, ?_, hnarrows.errors, hmonotone.2.1 "critical" "unheard-of"⟩
  · rw [hfindings]
    decide +kernel
  · rw [hnarrows.findings, hfindings]
    decide +kernel
  · have hfilter : ((mixedReport "warning").crossFindings.map (·.severity)).filter
        (fun severity => Severity.atLeast severity "critical") =
        (mixedReport "critical").crossFindings.map (·.severity) := by
      rw [hnarrows.crossFindings]
      exact List.filter_map
    rw [← hfilter, hacross]
    decide

end Audit
end CrossAudit
