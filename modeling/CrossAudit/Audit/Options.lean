import CrossAudit.Config
import CrossAudit.Fault

/-!
# Options of a run
-/

namespace CrossAudit
namespace Audit

/-- What a run does.  The passes, the configuration of the passes and the seconds that an external
analyzer may take are values of free shape, since they may come from a configuration file; passes
and seconds that are null are not given. -/
structure Options where
  languages : List String := []
  analyzers : Json := .null
  config : Json := .obj []
  minSeverity : String := "suggestion"
  crossLanguage : Bool := true
  contracts : Bool := true
  schemas : Bool := true
  references : Bool := false
  graph : Bool := false
  index : Bool := false
  includes : List String := []
  excludes : List String := []
  timeout : Json := .null
  criticalLength : Int := Config.criticalCycleLength
  deriving Inhabited

namespace Options

/-- Whether references have to be built. -/
def needsReferences (o : Options) : Bool :=
  o.references || o.graph

/-- The passes that are handed to each language, if any are given. -/
def passMember (o : Options) : Except Fault (List (String × Json)) :=
  match o.analyzers with
  | .null => .ok []
  | v => do return [("analyzers", .arr (← v.elements))]

/-- The options that are handed to each language. -/
def forTask (o : Options) : Except Fault (List (String × Json)) := do
  let passes ← o.passMember
  let timeout := if o.timeout.holds then [("timeout", o.timeout)] else []
  return ("config", o.config) :: (passes ++ timeout)

end Options
end Audit
end CrossAudit
