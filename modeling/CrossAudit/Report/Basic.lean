import CrossAudit.Contract.Validation
import CrossAudit.Graph.Basic
import CrossAudit.Report.Feature

/-!
# Reports

What a run over all languages found: findings within languages and across them, errors, entities,
references, the dependency graph, the use of endpoints, and figures.
-/

namespace CrossAudit

/-- Figures about one language. -/
structure LanguageStats where
  filesAnalyzed : Int := 0
  findings : Nat := 0
  functions : Nat := 0
  classes : Nat := 0
  interfaces : Nat := 0
  endpoints : Nat := 0
  executionTime : Binary64 := .zero
  deriving Repr, DecidableEq, Inhabited

namespace LanguageStats

/-- Figures as a document. -/
def toJson (s : LanguageStats) : Json :=
  .obj [("files_analyzed", .int s.filesAnalyzed), ("violations", .ofNat s.findings),
    ("functions", .ofNat s.functions), ("classes", .ofNat s.classes),
    ("interfaces", .ofNat s.interfaces), ("endpoints", .ofNat s.endpoints),
    ("execution_time", .real s.executionTime)]

end LanguageStats

/-- Figures about a run. -/
structure ReportMetrics where
  totalFiles : Int := 0
  totalFindings : Nat := 0
  languagesAnalyzed : List String := []
  executionTime : Binary64 := .zero
  crossLanguageReferences : Nat := 0
  contractsChecked : Nat := 0
  deriving Repr, DecidableEq, Inhabited

namespace ReportMetrics

/-- Figures as a document. -/
def toJson (m : ReportMetrics) : Json :=
  .obj [("total_files", .int m.totalFiles), ("total_violations", .ofNat m.totalFindings),
    ("languages_analyzed", .ofTexts m.languagesAnalyzed),
    ("execution_time", .real m.executionTime),
    ("cross_language_references", .ofNat m.crossLanguageReferences),
    ("api_contracts_checked", .ofNat m.contractsChecked)]

end ReportMetrics

/-- What a run found. -/
structure Report where
  findings : List Finding := []
  errors : List ErrorRecord := []
  entities : List Entity := []
  crossFindings : List Finding := []
  references : List Reference := []
  graph : Option Graph := none
  contracts : List Contract.Usage := []
  metrics : ReportMetrics := {}
  stats : List (String × LanguageStats) := []
  features : List (Feature × FeatureStatus) := []
  deriving Inhabited

namespace Report

/-- Whether anything found is critical. -/
def hasCritical (r : Report) : Bool :=
  (r.findings ++ r.crossFindings).any Finding.isCritical

/-- Notes how a feature went. -/
def mark (r : Report) (f : Feature) (s : FeatureStatus) : Report :=
  { r with features := Assoc.set f s r.features }

/-- How a feature went. -/
def statusOf? (r : Report) (f : Feature) : Option FeatureStatus :=
  r.features.lookup f

/-- Adds an error without a scope. -/
def addError (r : Report) (kind text : String) : Report :=
  { r with errors := r.errors ++ [{ error := text, kind := kind }] }

/-- A report as a document. -/
def toJson (r : Report) : Json :=
  .obj [("violations", .arr (r.findings.map Finding.toJson)),
    ("errors", .arr (r.errors.map ErrorRecord.toJson)),
    ("cross_language_violations", .arr (r.crossFindings.map Finding.toJson)),
    ("cross_references", .arr (r.references.map Reference.toJson)),
    ("dependency_graph", (r.graph.map Graph.toJson).getD .null),
    ("api_contracts", .arr (r.contracts.map Contract.Usage.toJson)),
    ("metrics", r.metrics.toJson),
    ("language_stats", .obj (r.stats.map fun (k, s) => (k, s.toJson))),
    ("feature_status", .obj (r.features.map fun (f, s) => (f.name, .str s.name))),
    ("index_entries", .arr (r.entities.map Entity.toJson))]

end Report
end CrossAudit
