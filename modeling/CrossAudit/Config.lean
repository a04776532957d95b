import CrossAudit.Number.Binary64
import CrossAudit.Text.Casing

/-!
# Fixed choices of the program

Defaults, and the names of the environment variables that override a runtime's settings.
-/

namespace CrossAudit
namespace Config

/-- The version of the program. -/
def programVersion : String := "0.3.0"

/-- Seconds allowed for asking a runtime for its version. -/
def probeTimeout : Binary64 := .ofInt 5

/-- Seconds allowed for one external analyzer. -/
def analysisTimeout : Binary64 := .ofInt 300

/-- Cycles up to this length are critical. -/
def criticalCycleLength : Int := 3

/-- How many languages are analyzed at once. -/
def maxConcurrency : Int := 4

/-- The passes that run unless others are asked for. -/
def defaultAnalyzers : List String := ["complexity", "documentation", "security"]

/-- The first part of every environment variable. -/
def variableStem : String := "POLYGLOT_AUDITOR"

/-- The variable that names a runtime's executable. -/
def pathVariable (runtime : String) : String :=
  variableStem ++ "_" ++ Text.upper runtime ++ "_PATH"

/-- The variable that switches a runtime off. -/
def disableVariable (runtime : String) : String :=
  variableStem ++ "_DISABLE_" ++ Text.upper runtime

end Config
end CrossAudit
