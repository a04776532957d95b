/-!
# Features of a run

What a run does beside analyzing each language, and how that went.
-/

namespace CrossAudit

/-- Something that a run can do beside analyzing languages. -/
inductive Feature where
  | crossLanguage
  | apiContracts
  | schemaConsistency
  | crossReferences
  | dependencyGraph
  | indexUpdate
  deriving Repr, DecidableEq, Inhabited

namespace Feature

/-- All features. -/
def all : List Feature :=
  [.crossLanguage, .apiContracts, .schemaConsistency, .crossReferences, .dependencyGraph,
    .indexUpdate]

/-- The name of a feature. -/
def name : Feature → String
  | .crossLanguage => "cross_language"
  | .apiContracts => "api_contracts"
  | .schemaConsistency => "schema_consistency"
  | .crossReferences => "cross_references"
  | .dependencyGraph => "dependency_graph"
  | .indexUpdate => "index_update"

end Feature

/-- How a feature went. -/
inductive FeatureStatus where
  | disabled
  | completed
  | failed
  | skipped
  deriving Repr, DecidableEq, Inhabited

/-- The name of a status. -/
def FeatureStatus.name : FeatureStatus → String
  | .disabled => "disabled"
  | .completed => "completed"
  | .failed => "failed"
  | .skipped => "skipped"

end CrossAudit
