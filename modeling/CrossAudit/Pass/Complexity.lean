import CrossAudit.Pass.Basic

/-!
# Complexity and parameter counts

Flags functions with more decision points or parameters than the configuration allows.
-/

namespace CrossAudit
namespace Pass
namespace Complexity

/-- The findings on one function. -/
def ofFunction (file : String) (maxComplexity maxParameters : Int) (f : FunctionDecl) :
    List Finding :=
  let label := f.label
  let count := f.parameters.length
  (if maxComplexity < f.complexity then
    [finding "complexity" file f.location.start
      s!"'{label}' has cyclomatic complexity {f.complexity} (max {maxComplexity})"
      (if 2 * maxComplexity < f.complexity then "critical" else "warning") "high-complexity"
      (some "Split the function into smaller helpers or use early returns")]
  else []) ++
  if maxParameters < count then
    [finding "complexity" file f.location.start
      s!"'{label}' takes {count} parameters (max {maxParameters})" "suggestion"
      "long-parameter-list" (some "Group related parameters into an object")]
  else []

/-- The findings on a document. -/
def run (a : Adapter) (d : Syntax.Document) (config : Json) : Except Fault (List Finding) := do
  let maxComplexity ← setting config "max_complexity" 10
  let maxParameters ← setting config "max_parameters" 5
  return (a.functions d).flatMap (ofFunction d.path maxComplexity maxParameters)

end Complexity
end Pass
end CrossAudit
