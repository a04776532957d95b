import CrossAudit.Pass.Basic
import CrossAudit.Text.Search

/-!
# Missing documentation

Flags exported classes and functions without documentation.  Functions shorter than the
configured number of lines explain themselves.
-/

namespace CrossAudit
namespace Pass
namespace Documentation

/-- Whether there is no documentation, or only an empty one. -/
def isUndocumented (doc : Option String) : Bool :=
  doc.getD "" == ""

/-- The finding on a class. -/
def ofClass (file : String) (c : ClassDecl) : List Finding :=
  if c.isExported && isUndocumented c.documentation then
    [finding "documentation" file c.location.start
      s!"Class '{c.name}' is exported but undocumented" "suggestion" "missing-class-docs" none]
  else []

/-- The finding on a function. -/
def ofFunction (file : String) (minLines : Int) (f : FunctionDecl) : List Finding :=
  let length : Int := (f.location.stopLine : Int) - f.location.startLine + 1
  if f.isExported && isUndocumented f.documentation && !Text.startsWith f.name "__" &&
      minLines ≤ length then
    let kind := if f.isMethod then "Method" else "Function"
    let label := f.label
    [finding "documentation" file f.location.start
      s!"{kind} '{label}' is exported but undocumented" "suggestion" "missing-function-docs" none]
  else []

/-- The findings on a document. -/
def run (a : Adapter) (d : Syntax.Document) (config : Json) : Except Fault (List Finding) := do
  let minLines ← setting config "min_documented_lines" 3
  return (a.classes d).flatMap (ofClass d.path) ++
    (a.functions d).flatMap (ofFunction d.path minLines)

end Documentation
end Pass
end CrossAudit
