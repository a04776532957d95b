import CrossAudit.Json.Basic

/-!
# Findings and error records

A *finding* is a rule violation at a place in a file.  A finding that spans languages also names
the files and languages it relates.  An *error record* says what could not be computed, scoped as
narrowly as possible.
-/

namespace CrossAudit

/-! ## Severity -/

namespace Severity

/-- The severities from the mildest to the gravest. -/
def ladder : List (String × Nat) :=
  [("suggestion", 0), ("warning", 1), ("critical", 2)]

/-- The rank of a severity; an unknown one ranks lowest. -/
def rank (severity : String) : Nat :=
  (ladder.lookup severity).getD 0

/-- Whether a severity is at least as grave as a minimum. -/
def atLeast (severity minimum : String) : Bool :=
  rank minimum ≤ rank severity

end Severity

/-! ## Findings -/

/-- What a finding across languages adds to a finding. -/
structure CrossLink where
  crossType : String := ""
  relatedFiles : List String := []
  relatedLanguages : List String := []
  deriving Repr

/-- A rule violation.  Its line and column are numbers, unless an analyzer's own notes on a call
gave something else. -/
structure Finding where
  file : String
  line : Json := .int 1
  column : Json := .int 1
  severity : String := "warning"
  message : String := "m"
  rule : String := "r"
  analyzer : String := "a"
  fix : Option String := none
  details : List (String × Json) := []
  link : Option CrossLink := none
  deriving Repr, Inhabited

namespace Finding

/-- Whether a finding is of the gravest kind. -/
def isCritical (f : Finding) : Bool :=
  f.severity == "critical"

/-- The members of a link between languages. -/
def linkMembers : Option CrossLink → List (String × Json)
  | none => []
  | some l =>
    [("cross_language_type", .str l.crossType), ("related_files", .ofTexts l.relatedFiles),
      ("related_languages", .ofTexts l.relatedLanguages)]

/-- A finding as a document; an absent fix and empty details are left out. -/
def toJson (f : Finding) : Json :=
  .obj <|
    [("file", .str f.file), ("line", f.line), ("column", f.column), ("severity", .str f.severity),
      ("message", .str f.message), ("rule", .str f.rule), ("analyzer", .str f.analyzer)] ++
    (f.fix.map fun s => ("fix", Json.str s)).toList ++
    (if f.details.isEmpty then [] else [("details", .obj f.details)]) ++
    linkMembers f.link

end Finding

/-! ## Error records -/

/-- Something that could not be computed. -/
structure ErrorRecord where
  error : String
  kind : String := "analysis"
  file : Option String := none
  language : Option String := none
  deriving Repr, DecidableEq, Inhabited

namespace ErrorRecord

/-- A record as a document; absent scopes are left out. -/
def toJson (e : ErrorRecord) : Json :=
  .obj <|
    [("error", .str e.error), ("kind", .str e.kind)] ++
    (e.file.map fun s => ("file", Json.str s)).toList ++
    (e.language.map fun s => ("language", Json.str s)).toList

end ErrorRecord
end CrossAudit
