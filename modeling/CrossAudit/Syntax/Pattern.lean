import CrossAudit.Syntax.Document
import CrossAudit.Text.Search

/-!
# Node patterns

A declarative query on nodes.  All criteria that are given must hold; a pattern without any holds
of every node.
-/

namespace CrossAudit
namespace Syntax

/-- A criterion on a node's name. -/
inductive NameTest where
  | exact (name : String)
  | search (fromStart : Bool) (text : String) (toEnd : Bool)
  deriving Repr, DecidableEq

/-- Whether a name passes a test.  A search may be tied to the start and to the end of the name,
where one final line feed does not count. -/
def NameTest.accepts : NameTest → String → Bool
  | .exact want, name => name == want
  | .search fromStart text toEnd, name =>
    let holds (cs : List Char) : Bool :=
      if fromStart && toEnd then cs == text.toList
      else if fromStart then text.toList.isPrefixOf cs
      else if toEnd then text.toList.isSuffixOf cs
      else Chars.occursIn text.toList cs
    if toEnd then Chars.holdsToEnd holds name.toList else holds name.toList

/-- A query on nodes. -/
inductive Pattern where
  | mk (kinds : Option (List String)) (name : Option NameTest) (hasChild hasParent : Option Pattern)
      (custom : Option (Node → Bool))
  deriving Inhabited

namespace Pattern

mutual

/-- Whether a node matches, given how nodes are named. -/
def accepts (nameOf : Cursor → Option String) : Pattern → Cursor → Bool
  | .mk kinds name hasChild hasParent custom, c =>
    ((kinds.map fun ks => ks.contains c.kind).getD true) &&
    (match name with
      | none => true
      | some test => ((nameOf c).map test.accepts).getD false) &&
    acceptsChild nameOf hasChild c && acceptsParent nameOf hasParent c &&
    ((custom.map fun p => p c.node).getD true)

/-- Whether some child of the outline matches. -/
def acceptsChild (nameOf : Cursor → Option String) : Option Pattern → Cursor → Bool
  | none, _ => true
  | some p, c => c.kept.any fun child => accepts nameOf p child

/-- Whether the node above matches. -/
def acceptsParent (nameOf : Cursor → Option String) : Option Pattern → Cursor → Bool
  | none, _ => true
  | some p, c => c.parent?.any fun up => accepts nameOf p up

end

end Pattern
end Syntax
end CrossAudit
