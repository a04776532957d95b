import CrossAudit.Syntax.Document

/-!
# The vocabulary of a grammar

Which node kinds are functions, classes, branches and so on, and what follows from the vocabulary
alone: the predicates on nodes and the cyclomatic complexity, which is one more than the number of
decision points that do not lie in a nested function or class.
-/

namespace CrossAudit
namespace Adapter

open Syntax

/-- A text, unless it is empty. -/
def nonEmpty (s : String) : Option String :=
  if s == "" then none else some s

/-- Adds a name at the end, unless it is empty or already there. -/
def addNew (names : List String) (name : String) : List String :=
  if name == "" || names.contains name then names else names ++ [name]

/-- The node kinds of a grammar by what they are.  Without operators every boolean node is a
branch; with them only those whose operator is listed. -/
structure Vocabulary where
  functions : List String
  classes : List String
  interfaces : List String := []
  imports : List String
  loops : List String
  conditionals : List String
  catches : List String
  booleans : List String
  operators : List String := []
  deriving Repr

namespace Vocabulary

variable (v : Vocabulary)

/-- Whether a node opens a scope of its own: a function or a class. -/
def opensScope (n : Node) : Bool :=
  v.functions.contains n.kind || v.classes.contains n.kind

/-- Whether a node is a method: the nearest scope around it is a class. -/
def isMethod (c : Cursor) : Bool :=
  v.functions.contains c.kind &&
    match c.ancestors.find? fun a => v.opensScope a.node with
    | some scope => v.classes.contains scope.kind
    | none => false

/-- Whether a boolean operation branches. -/
def isBooleanBranch (n : Node) : Bool :=
  v.booleans.contains n.kind &&
    (v.operators.isEmpty ||
      match n.children.find? (·.info.role == some "operator") with
      | some op => v.operators.contains op.kind
      | none => false)

/-- Whether a node is a decision point. -/
def isDecision (n : Node) : Bool :=
  v.conditionals.contains n.kind || v.loops.contains n.kind || v.catches.contains n.kind ||
    v.isBooleanBranch n

/-- The nodes below a node that belong to its own scope. -/
def ownScope (c : Cursor) : List Cursor :=
  (c.scan (fun n => n.isKept && !v.opensScope n) (fun _ => true) false).tail

/-- Cyclomatic complexity. -/
def complexity (c : Cursor) : Nat :=
  1 + ((v.ownScope c).filter fun d => v.isDecision d.node).length

end Vocabulary
end Adapter
end CrossAudit
