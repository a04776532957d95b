import CrossAudit.Adapter.Basic
import CrossAudit.Finding
import CrossAudit.Json.Number

/-!
# Rule passes

What the passes share: the findings they make, and the numbers they read from a configuration.
-/

namespace CrossAudit
namespace Pass

/-- A finding of a pass at a place. -/
def finding (analyzer file : String) (place : Position) (message severity rule : String)
    (fix : Option String) : Finding :=
  { file := file, line := .ofNat place.line, column := .ofNat place.col, severity := severity
    message := message, rule := rule, analyzer := analyzer, fix := fix }

/-- An integer setting with a default.  An empty configuration has no settings; a configuration
that is no object cannot be asked. -/
def setting (config : Json) (key : String) (fallback : Int) : Except Fault Int :=
  if config.holds then do
    match ← config.member key with
    | some v => v.toInteger
    | none => return fallback
  else .ok fallback

end Pass
end CrossAudit
