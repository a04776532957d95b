import CrossAudit.Report.Basic
import CrossAudit.Task.Result
import CrossAudit.Total

/-!
# Merging the results of languages

Results are merged in the order of their languages, so that the order in which they were computed
does not show.  Findings below a minimum severity are dropped; within a language the others keep
their order.
-/

namespace CrossAudit
namespace Report

/-- The findings of a list that are grave enough. -/
def graveEnough (minimum : String) (fs : List Finding) : List Finding :=
  fs.filter fun f => Severity.atLeast f.severity minimum

/-- Results in the order of their languages; equal languages keep their order. -/
def inLanguageOrder (results : List TaskResult) : List TaskResult :=
  results.mergeSort fun a b => decide (a.language ≤ b.language)

/-- The number of entities of some kinds. -/
def countKinds (kinds : List String) (entities : List Entity) : Nat :=
  entities.countP fun e => kinds.contains e.type

/-- Adds a result to the figures of its language, with a given addition of times. -/
def addStats (plus : Binary64 → Binary64 → Binary64) (minimum : String) (r : TaskResult)
    (s : LanguageStats) : LanguageStats :=
  { filesAnalyzed := s.filesAnalyzed + r.metrics.filesAnalyzed
    findings := s.findings + (graveEnough minimum r.findings).length
    functions := s.functions + countKinds ["function"] r.entities
    classes := s.classes + countKinds ["class", "schema", "struct"] r.entities
    interfaces := s.interfaces + countKinds ["interface"] r.entities
    endpoints := s.endpoints + countKinds ["endpoint"] r.entities
    executionTime := plus s.executionTime r.metrics.executionTime }

/-- The figures of each language. -/
def statsOf (plus : Binary64 → Binary64 → Binary64) (minimum : String)
    (results : List TaskResult) : List (String × LanguageStats) :=
  results.foldl (fun table r => Assoc.update r.language {} (addStats plus minimum r) table) []

/-- Whether a result counts its language as analyzed. -/
def counts (r : TaskResult) : Bool :=
  r.metrics.filesAnalyzed != 0 || r.errors.isEmpty

/-- One report of the results of languages, with a given addition of times. -/
def mergeBy (plus : Binary64 → Binary64 → Binary64) (minimum : String)
    (results : List TaskResult) : Report :=
  let sorted := inLanguageOrder results
  let findings := sorted.flatMap fun r => graveEnough minimum r.findings
  let stats := statsOf plus minimum sorted
  { findings := findings
    errors := sorted.flatMap (·.errors)
    entities := sorted.flatMap (·.entities)
    stats := stats
    metrics :=
      { totalFiles := balance (stats.map fun s => s.2.filesAnalyzed)
        totalFindings := findings.length
        languagesAnalyzed := ((sorted.filter counts).map (·.language)).eraseDups } }

/-- One report of the results of languages. -/
def merge (minimum : String) (results : List TaskResult) : Report :=
  mergeBy .add minimum results

end Report
end CrossAudit
