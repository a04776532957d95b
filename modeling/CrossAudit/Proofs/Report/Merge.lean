import CrossAudit.Proofs.Assoc
import CrossAudit.Proofs.Number.ExactSum
import CrossAudit.Report.Merge
import Mathlib.Data.List.Sort

/-!
# The order of results does not show in their report

A report depends on the order of the merged results only in two ways: items of one language stand
in the order of its results, and the times of a language are rounded one addition after the other.

Main results:

- Theorem `inOrder_inLanguageOrder`: results are sorted by language, and those of one language keep
  their order.
- Theorem `figures_eq`: the figures of a language are counts and sums over its results.
- Theorem `mergeBy_perm`: with an addition of times that does not depend on the order of its terms,
  permuted results give the same figures, and the same items up to their order.
- Theorem `merge_order_independent`: the same for unrounded times and for everything but times, with
  equal reports for distinct languages, and a report that leaves nothing out.
-/

namespace CrossAudit
namespace Report

/-! ## The order of languages -/

/-- Whether a result belongs to a language. -/
def ofLanguage (l : String) (r : TaskResult) : Bool :=
  r.language == l

/-- Results in the order of their languages; those of one language keep their order. -/
structure InOrder (results ordered : List TaskResult) : Prop where
  perm : ordered.Perm results
  sorted : ordered.Pairwise fun a b => a.language ≤ b.language
  stable : ∀ l, ordered.filter (ofLanguage l) = results.filter (ofLanguage l)

/-- Results by language are in order. -/
theorem inOrder_inLanguageOrder (results : List TaskResult) :
    InOrder results (inLanguageOrder results) := by
  have htrans : ∀ a b c : TaskResult, decide (a.language ≤ b.language) = true →
      decide (b.language ≤ c.language) = true → decide (a.language ≤ c.language) = true := by
    intro a b c hab hbc
    rw [decide_eq_true_eq] at hab hbc ⊢
    exact String.le_trans hab hbc
  have htotal : ∀ a b : TaskResult,
      (decide (a.language ≤ b.language) || decide (b.language ≤ a.language)) = true := by
    intro a b
    rw [Bool.or_eq_true, decide_eq_true_eq, decide_eq_true_eq]
    exact String.le_total a.language b.language
  have hperm : (inLanguageOrder results).Perm results :=
    List.mergeSort_perm results fun a b => decide (a.language ≤ b.language)
  have hsorted := List.pairwise_mergeSort htrans htotal results
  refine ⟨hperm, hsorted.imp fun h => of_decide_eq_true h, fun l => ?_⟩
  -- The results of one language are sorted as they stand, so sorting leaves them in place.
  have hequal : (results.filter (ofLanguage l)).Pairwise
      fun a b => decide (a.language ≤ b.language) = true := by
    rw [List.pairwise_filter]
    apply List.pairwise_of_forall
    intro a b ha hb
    have hsame : a.language = b.language := (beq_iff_eq.1 ha).trans (beq_iff_eq.1 hb).symm
    exact decide_eq_true (hsame ▸ String.le_refl a.language)
  have hsub := (List.sublist_mergeSort htrans htotal hequal List.filter_sublist).filter
    (ofLanguage l)
  rw [List.filter_filter] at hsub
  simp only [Bool.and_self] at hsub
  exact (hsub.eq_of_length (hperm.filter (ofLanguage l)).length_eq.symm).symm

namespace InOrder

variable {results results' ordered ordered' : List TaskResult}

/-- Permuted results name their languages in the same order. -/
theorem map_language_filter_eq (h : InOrder results ordered) (h' : InOrder results' ordered')
    (hperm : results.Perm results') (p : TaskResult → Bool) :
    (ordered.filter p).map (·.language) = (ordered'.filter p).map (·.language) := by
  have hmap : ((ordered.filter p).map (·.language)).Perm ((ordered'.filter p).map (·.language)) :=
    (((h.perm.trans hperm).trans h'.perm.symm).filter p).map (·.language)
  apply hmap.eq_of_pairwise
  · exact fun a b _ _ hab hba => String.le_antisymm hab hba
  · exact List.pairwise_map.2 (h.sorted.filter p)
  · exact List.pairwise_map.2 (h'.sorted.filter p)

/-- Results of distinct languages have one order. -/
theorem eq_of_nodup (h : InOrder results ordered) (h' : InOrder results' ordered')
    (hperm : results.Perm results') (hnodup : (results.map (·.language)).Nodup) :
    ordered = ordered' := by
  apply ((h.perm.trans hperm).trans h'.perm.symm).eq_of_pairwise _ h.sorted h'.sorted
  intro a b ha hb hab hba
  have ha' : a ∈ results := h.perm.mem_iff.1 ha
  have hb' : b ∈ results := hperm.mem_iff.2 (h'.perm.mem_iff.1 hb)
  exact List.inj_on_of_nodup_map hnodup ha' hb' (String.le_antisymm hab hba)

end InOrder

/-! ## The figures of a language -/

variable (plus : Binary64 → Binary64 → Binary64) (minimum : String)

/-- The figures of the results of one language. -/
def figures (results : List TaskResult) : LanguageStats :=
  results.foldl (fun s r => addStats plus minimum r s) {}

/-- Figures are counts and sums over the results. -/
theorem figures_eq (results : List TaskResult) :
    figures plus minimum results =
      { filesAnalyzed := (results.map (·.metrics.filesAnalyzed)).sum
        findings := (results.flatMap fun r => graveEnough minimum r.findings).length
        functions := countKinds ["function"] (results.flatMap (·.entities))
        classes := countKinds ["class", "schema", "struct"] (results.flatMap (·.entities))
        interfaces := countKinds ["interface"] (results.flatMap (·.entities))
        endpoints := countKinds ["endpoint"] (results.flatMap (·.entities))
        executionTime := (results.map (·.metrics.executionTime)).foldl plus .zero } := by
  -- The last result adds what it holds to the figures of those before it.
  induction results using List.reverseRecOn with
  | nil => rfl
  | append_singleton results r ih =>
      have hstep : figures plus minimum (results ++ [r]) =
          addStats plus minimum r (figures plus minimum results) := by
        simp [figures]
      rw [hstep, ih]
      simp [addStats, countKinds]

/-- Every language has one entry, with the figures of its results. -/
theorem statsOf_eq (results : List TaskResult) :
    statsOf plus minimum results =
      (results.map (·.language)).eraseDups.map fun l =>
        (l, figures plus minimum (results.filter (ofLanguage l))) :=
  Assoc.fill_eq TaskResult.language ({} : LanguageStats) (addStats plus minimum) results

/-- A figure to which every result adds something sums up to what all results add. -/
theorem sum_statsOf {M : Type} [AddCommMonoid M] (figure : LanguageStats → M)
    (gain : TaskResult → M) (hzero : figure {} = 0)
    (hgain : ∀ r s, figure (addStats plus minimum r s) = figure s + gain r)
    (results : List TaskResult) :
    ((statsOf plus minimum results).map fun p => figure p.2).sum = (results.map gain).sum := by
  induction results using List.reverseRecOn with
  | nil => rfl
  | append_singleton results r ih =>
      have hstep : statsOf plus minimum (results ++ [r]) =
          Assoc.update r.language {} (addStats plus minimum r) (statsOf plus minimum results) := by
        simp [statsOf]
      rw [hstep, Assoc.sum_update figure (hgain r) hzero, ih]
      simp

variable {plus minimum}

/-- The order of results does not show in their figures if it does not show in their times. -/
theorem figures_perm (hplus : ∀ x y z, plus (plus x y) z = plus (plus x z) y)
    {results results' : List TaskResult} (hperm : results.Perm results') :
    figures plus minimum results = figures plus minimum results' := by
  apply hperm.foldl_eq'
  intro r _ r' _ s
  simp only [addStats, hplus, Nat.add_right_comm, Int.add_right_comm]

/-- Figures that may be added in any order do not depend on the order of the results. -/
theorem statsOf_perm (hplus : ∀ x y z, plus (plus x y) z = plus (plus x z) y)
    {results results' ordered ordered' : List TaskResult} (h : InOrder results ordered)
    (h' : InOrder results' ordered') (hperm : results.Perm results') :
    statsOf plus minimum ordered = statsOf plus minimum ordered' := by
  have hkeys := h.map_language_filter_eq h' hperm fun _ => true
  rw [List.filter_true, List.filter_true] at hkeys
  rw [statsOf_eq, statsOf_eq, hkeys]
  apply List.map_congr_left
  intro l _
  rw [h.stable, h'.stable, figures_perm hplus (hperm.filter (ofLanguage l))]

/-! ## Permuted results -/

/-- Reports with the same figures, and the same items up to their order. -/
structure SameUpToOrder (a b : Report) : Prop where
  stats : a.stats = b.stats
  languagesAnalyzed : a.metrics.languagesAnalyzed = b.metrics.languagesAnalyzed
  totalFiles : a.metrics.totalFiles = b.metrics.totalFiles
  totalFindings : a.metrics.totalFindings = b.metrics.totalFindings
  findings : a.findings.Perm b.findings
  errors : a.errors.Perm b.errors
  entities : a.entities.Perm b.entities

/-- Permuted results give the same report up to the order of its items, if the order of times does
not show in their sum. -/
theorem mergeBy_perm (hplus : ∀ x y z, plus (plus x y) z = plus (plus x z) y)
    {results results' : List TaskResult} (hperm : results.Perm results') :
    SameUpToOrder (mergeBy plus minimum results) (mergeBy plus minimum results') := by
  have h := inOrder_inLanguageOrder results
  have h' := inOrder_inLanguageOrder results'
  have hordered : (inLanguageOrder results).Perm (inLanguageOrder results') :=
    (h.perm.trans hperm).trans h'.perm.symm
  have hstats : statsOf plus minimum (inLanguageOrder results) =
      statsOf plus minimum (inLanguageOrder results') :=
    statsOf_perm hplus h h' hperm
  have htotal : (mergeBy plus minimum results).metrics.totalFiles =
      (mergeBy plus minimum results').metrics.totalFiles := by
    simp only [mergeBy, hstats]
  have hfindings := hordered.flatMap_right fun r => graveEnough minimum r.findings
  exact
    { stats := hstats
      languagesAnalyzed := congrArg List.eraseDups (h.map_language_filter_eq h' hperm counts)
      totalFiles := htotal
      totalFindings := hfindings.length_eq
      findings := hfindings
      errors := hordered.flatMap_right TaskResult.errors
      entities := hordered.flatMap_right TaskResult.entities }

/-- A report without the times of its languages. -/
def untimed (r : Report) : Report :=
  { r with stats := r.stats.map fun p => (p.1, { p.2 with executionTime := .zero }) }

/-- Times are the only figures that depend on how they are added. -/
theorem untimed_mergeBy (plus' : Binary64 → Binary64 → Binary64) (results : List TaskResult) :
    untimed (mergeBy plus minimum results) = untimed (mergeBy plus' minimum results) := by
  simp only [untimed, mergeBy, statsOf_eq, List.map_map]
  simp [figures_eq, Function.comp_def]

/-- Reports that are the same up to order are so without their times. -/
theorem SameUpToOrder.untimed {a b : Report} (h : SameUpToOrder a b) :
    SameUpToOrder a.untimed b.untimed :=
  { h with stats := by simp only [Report.untimed, h.stats] }

/-- Results of distinct languages give one report. -/
theorem mergeBy_eq_of_nodup {results results' : List TaskResult} (hperm : results.Perm results')
    (hnodup : (results.map (·.language)).Nodup) :
    mergeBy plus minimum results = mergeBy plus minimum results' := by
  have hordered : inLanguageOrder results = inLanguageOrder results' :=
    (inOrder_inLanguageOrder results).eq_of_nodup (inOrder_inLanguageOrder results') hperm hnodup
  simp only [mergeBy, hordered]

/-! ## What a report holds -/

/-- The number of entities of some kinds in the results of a language. -/
def numberOf (kinds : List String) (results : List TaskResult) (l : String) : Nat :=
  ((results.filter (ofLanguage l)).flatMap (·.entities)).countP fun e => e.type ∈ kinds

/-- A report that leaves nothing of its results out but the findings below a severity. -/
structure Lossless (minimum : String) (results ordered : List TaskResult) (report : Report) :
    Prop where
  inOrder : InOrder results ordered
  findings : report.findings = ordered.flatMap fun r =>
    r.findings.filter fun f => Severity.atLeast f.severity minimum
  errors : report.errors = ordered.flatMap (·.errors)
  entities : report.entities = ordered.flatMap (·.entities)
  totalFindings_eq_length : report.metrics.totalFindings = report.findings.length
  totalFindings_eq_sum : report.metrics.totalFindings = (report.stats.map (·.2.findings)).sum
  totalFiles_eq_sum : report.metrics.totalFiles = (results.map (·.metrics.filesAnalyzed)).sum
  mem_languagesAnalyzed : ∀ l, l ∈ report.metrics.languagesAnalyzed ↔
    ∃ r ∈ results, r.language = l ∧ (r.metrics.filesAnalyzed ≠ 0 ∨ r.errors = [])
  nodup_languages : (report.stats.map (·.1)).Nodup
  mem_languages : ∀ l, l ∈ report.stats.map (·.1) ↔ l ∈ results.map (·.language)
  functions : ∀ p ∈ report.stats, p.2.functions = numberOf ["function"] results p.1
  classes : ∀ p ∈ report.stats,
    p.2.classes = numberOf ["class", "schema", "struct"] results p.1
  interfaces : ∀ p ∈ report.stats, p.2.interfaces = numberOf ["interface"] results p.1
  endpoints : ∀ p ∈ report.stats, p.2.endpoints = numberOf ["endpoint"] results p.1

/-- The entry of a language holds the figures of its results, as they were given. -/
theorem figures_of_mem_stats {results : List TaskResult} {p : String × LanguageStats}
    (h : p ∈ (mergeBy plus minimum results).stats) :
    p.2 = figures plus minimum (results.filter (ofLanguage p.1)) := by
  have hstats : p ∈ statsOf plus minimum (inLanguageOrder results) := h
  rw [statsOf_eq] at hstats
  rcases List.mem_map.1 hstats with ⟨l, _, rfl⟩
  rw [(inOrder_inLanguageOrder results).stable]

/-- There are figures for every language that has a result, once. -/
theorem keys_stats (results : List TaskResult) :
    (mergeBy plus minimum results).stats.map (·.1) =
      ((inLanguageOrder results).map (·.language)).eraseDups :=
  Assoc.keys_fill TaskResult.language ({} : LanguageStats) (addStats plus minimum)
    (inLanguageOrder results)

/-- The number of findings is the sum over the languages. -/
theorem totalFindings_eq_sum (results : List TaskResult) :
    (mergeBy plus minimum results).metrics.totalFindings =
      ((mergeBy plus minimum results).stats.map (·.2.findings)).sum := by
  have hsum := sum_statsOf plus minimum LanguageStats.findings
    (fun r => (graveEnough minimum r.findings).length) rfl (fun _ _ => rfl)
    (inLanguageOrder results)
  have hlength : (mergeBy plus minimum results).metrics.totalFindings =
      ((inLanguageOrder results).map fun r => (graveEnough minimum r.findings).length).sum :=
    List.length_flatMap
  rw [hlength]
  exact hsum.symm

/-- The number of files is the sum over the results. -/
theorem totalFiles_eq_sum (results : List TaskResult) :
    (mergeBy plus minimum results).metrics.totalFiles =
      (results.map (·.metrics.filesAnalyzed)).sum := by
  have hsum := sum_statsOf plus minimum LanguageStats.filesAnalyzed
    (fun r => r.metrics.filesAnalyzed) rfl (fun _ _ => rfl) (inLanguageOrder results)
  have hperm := (inOrder_inLanguageOrder results).perm.map fun r => r.metrics.filesAnalyzed
  calc (mergeBy plus minimum results).metrics.totalFiles
      = ((mergeBy plus minimum results).stats.map (·.2.filesAnalyzed)).sum := balance_eq_sum _
    _ = ((inLanguageOrder results).map (·.metrics.filesAnalyzed)).sum := hsum
    _ = (results.map (·.metrics.filesAnalyzed)).sum := hperm.sum_eq

/-- A language was analyzed if one of its results read files or had no errors. -/
theorem mem_languagesAnalyzed (results : List TaskResult) (l : String) :
    l ∈ (mergeBy plus minimum results).metrics.languagesAnalyzed ↔
      ∃ r ∈ results, r.language = l ∧ (r.metrics.filesAnalyzed ≠ 0 ∨ r.errors = []) := by
  have hperm := (inOrder_inLanguageOrder results).perm
  simp only [mergeBy, List.mem_eraseDups, List.mem_map, List.mem_filter, hperm.mem_iff, counts,
    Bool.or_eq_true, bne_iff_ne, List.isEmpty_iff, and_assoc]
  exact exists_congr fun r => and_congr_right fun _ => and_comm

/-- A counter of some kinds of entities counts them in the results of the language. -/
theorem counter_eq_numberOf {counter : LanguageStats → Nat} {kinds : List String}
    (hcounter : ∀ rs,
      counter (figures plus minimum rs) = countKinds kinds (rs.flatMap (·.entities)))
    {results : List TaskResult} {p : String × LanguageStats}
    (hp : p ∈ (mergeBy plus minimum results).stats) : counter p.2 = numberOf kinds results p.1 := by
  rw [figures_of_mem_stats hp, hcounter]
  simp only [countKinds, numberOf, List.contains_eq_mem]

/-- Merging loses nothing but what is not grave enough. -/
theorem lossless_mergeBy (plus : Binary64 → Binary64 → Binary64) (minimum : String)
    (results : List TaskResult) :
    Lossless minimum results (inLanguageOrder results) (mergeBy plus minimum results) where
  inOrder := inOrder_inLanguageOrder results
  findings := rfl
  errors := rfl
  entities := rfl
  totalFindings_eq_length := rfl
  totalFindings_eq_sum := totalFindings_eq_sum results
  totalFiles_eq_sum := totalFiles_eq_sum results
  mem_languagesAnalyzed := mem_languagesAnalyzed results
  nodup_languages :=
    Assoc.nodup_keys_fill TaskResult.language ({} : LanguageStats) (addStats plus minimum) []
      (inLanguageOrder results) List.nodup_nil
  mem_languages := by
    intro l
    rw [keys_stats, List.mem_eraseDups]
    exact ((inOrder_inLanguageOrder results).perm.map TaskResult.language).mem_iff
  functions := fun p hp => counter_eq_numberOf (fun rs => by rw [figures_eq]) hp
  classes := fun p hp => counter_eq_numberOf (fun rs => by rw [figures_eq]) hp
  interfaces := fun p hp => counter_eq_numberOf (fun rs => by rw [figures_eq]) hp
  endpoints := fun p hp => counter_eq_numberOf (fun rs => by rw [figures_eq]) hp

/-! ## Order independence -/

/-- Results that are merged in another order give the same figures, and the same findings, errors
and entities up to their order: with times that are not rounded, and as they are but for times.
Reports of distinct languages are equal as they are, and none of them leaves anything out. -/
theorem merge_order_independent (minimum : String) {results results' : List TaskResult}
    (hperm : results.Perm results') :
    SameUpToOrder (mergeBy .exactSum minimum results) (mergeBy .exactSum minimum results') ∧
      SameUpToOrder (untimed (merge minimum results)) (untimed (merge minimum results')) ∧
      ((results.map (·.language)).Nodup →
        mergeBy .exactSum minimum results = mergeBy .exactSum minimum results' ∧
          merge minimum results = merge minimum results') ∧
      (∃ ordered, Lossless minimum results ordered (mergeBy .exactSum minimum results)) ∧
      ∃ ordered, Lossless minimum results ordered (merge minimum results) := by
  have hexact : SameUpToOrder (mergeBy .exactSum minimum results)
      (mergeBy .exactSum minimum results') :=
    mergeBy_perm Binary64.exactSum_right_comm hperm
  refine ⟨hexact, ?_, ?_, ⟨_, lossless_mergeBy _ minimum results⟩,
    ⟨_, lossless_mergeBy _ minimum results⟩⟩
  · have huntimed := hexact.untimed
    rwa [untimed_mergeBy .add results, untimed_mergeBy .add results'] at huntimed
  · intro hnodup
    exact ⟨mergeBy_eq_of_nodup hperm hnodup, mergeBy_eq_of_nodup hperm hnodup⟩

/-- A result with a finding above the minimum and one below it. -/
def serverResult : TaskResult :=
  { language := "go"
    findings := [{ file := "a.go" }, { file := "a.go", severity := "suggestion" }]
    entities := [{ id := "go:User", name := "User", language := "go", file := "a.go",
                   type := "struct", startLine := 1, endLine := 4 }]
    metrics := { filesAnalyzed := 2, executionTime := .finite false (1 / 10) } }

/-- A result of the same language, without a file. -/
def workerResult : TaskResult :=
  { language := "go"
    errors := [{ error := "timed out", kind := "timeout", language := some "go" }]
    metrics := { executionTime := .finite false (1 / 5) } }

/-- A result of another language. -/
def clientResult : TaskResult :=
  { language := "typescript"
    findings := [{ file := "b.ts", severity := "critical" }]
    metrics := { filesAnalyzed := 1, executionTime := .finite false (3 / 10) } }

/-- Three results with three findings, one of them below the minimum: two are left, in either order
of the results. -/
theorem merge_order_independent_services :
    [clientResult, serverResult, workerResult].Perm [workerResult, clientResult, serverResult] ∧
      SameUpToOrder (mergeBy .exactSum "warning" [clientResult, serverResult, workerResult])
        (mergeBy .exactSum "warning" [workerResult, clientResult, serverResult]) ∧
      ([clientResult, serverResult].map (·.language)).Nodup ∧
      merge "warning" [clientResult, serverResult] =
        merge "warning" [serverResult, clientResult] ∧
      ([clientResult, serverResult, workerResult].flatMap (·.findings)).length = 3 ∧
      (merge "warning" [clientResult, serverResult, workerResult]).metrics.totalFindings = 2 ∧
      { file := "a.go", severity := "suggestion" } ∈ serverResult.findings ∧
      { file := "a.go", severity := "suggestion" } ∉
        (merge "warning" [clientResult, serverResult, workerResult]).findings := by
  have hperm : [clientResult, serverResult, workerResult].Perm
      [workerResult, clientResult, serverResult] :=
    @List.perm_append_comm _ [clientResult, serverResult] [workerResult]
  have hswap : [clientResult, serverResult].Perm [serverResult, clientResult] :=
    List.Perm.swap serverResult clientResult []
  have hdistinct : ([clientResult, serverResult].map (·.language)).Nodup := by decide
  obtain ⟨ordered, hlossless⟩ := (merge_order_independent "warning" hperm).2.2.2.2
  refine ⟨hperm, (merge_order_independent "warning" hperm).1, hdistinct,
    ((merge_order_independent "warning" hswap).2.2.1 hdistinct).2, rfl, ?_,
    by simp [serverResult], ?_⟩
  · rw [hlossless.totalFindings_eq_length, hlossless.findings,
      (hlossless.inOrder.perm.flatMap_right _).length_eq]
    decide
  · rw [hlossless.findings, List.mem_flatMap]
    rintro ⟨r, _, hkept⟩
    exact absurd (List.mem_filter.1 hkept).2 (by decide)

end Report
end CrossAudit
