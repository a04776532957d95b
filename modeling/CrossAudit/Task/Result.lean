import CrossAudit.Entity.Basic
import CrossAudit.Finding

/-!
# The result of analyzing one language
-/

namespace CrossAudit

/-- How much was analyzed, and how long it took. -/
structure TaskMetrics where
  filesAnalyzed : Int := 0
  executionTime : Binary64 := .zero
  deriving Repr, Inhabited

/-- What the analysis of one language found. -/
structure TaskResult where
  language : String
  findings : List Finding := []
  entities : List Entity := []
  metrics : TaskMetrics := {}
  errors : List ErrorRecord := []
  deriving Inhabited

namespace TaskResult

/-- The result of a task that failed as a whole. -/
def failed (language error : String) (kind : String) : TaskResult :=
  { language := language
    errors := [{ error := error, kind := kind, language := some language }] }

/-- A result as a document. -/
def toJson (r : TaskResult) : Json :=
  .obj [("language", .str r.language), ("violations", .arr (r.findings.map Finding.toJson)),
    ("index_entries", .arr (r.entities.map Entity.toJson)),
    ("metrics", .obj [("files_analyzed", .int r.metrics.filesAnalyzed),
      ("execution_time", .real r.metrics.executionTime)]),
    ("errors", .arr (r.errors.map ErrorRecord.toJson))]

end TaskResult
end CrossAudit
