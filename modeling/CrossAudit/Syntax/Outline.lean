import CrossAudit.Syntax.Tree
import CrossAudit.Text.Blank
import CrossAudit.Text.Utf8
import CrossAudit.Total

/-!
# Outlines

The outline of a tree is a tree of its own.  Its nodes are numbered in the order in which they were
made; each has the kind, the byte range and the location of a node of the parser's tree, the numbers
of its parent and of its children, and a mark that says whether it belongs to the outline.

An outline is made with a stack of nodes whose children have still to be looked at: the node that
was put there last is taken first.  What the parser complained about is noted on the way, an error
mark when a node is taken, a missing child when the children are looked at.  The outline is walked
with a stack of numbers.
-/

namespace CrossAudit
namespace Syntax

/-! ## Complaints -/

/-- A complaint of the parser. -/
structure Diagnostic where
  kind : String
  message : String
  location : Location
  severity : String := "error"
  deriving Repr, DecidableEq, Inhabited

namespace Diagnostic

/-- A complaint as text. -/
def toString (d : Diagnostic) : String :=
  s!"{d.message} at {d.location.start.line}:{d.location.start.col}"

/-- The longest stretch of source, in bytes, that a complaint quotes. -/
def quotedBytes : Nat := 40

/-- The complaint about a node that is marked as an error. -/
def ofBroken (source : ByteArray) (n : NodeInfo) : Diagnostic :=
  let excerpt := source.extract n.first (min n.last (n.first + quotedBytes))
  { kind := "syntax-error"
    message := "Syntax error near '" ++ Text.strip (Utf8.toText excerpt) ++ "'"
    location := n.location }

/-- The complaint about a node that is missing. -/
def ofMissing (n : NodeInfo) : Diagnostic :=
  { kind := "missing-node", message := "Missing " ++ n.kind, location := n.location }

end Diagnostic

/-! ## Sizes -/

mutual

/-- The number of nodes of a tree, tokens included. -/
def Node.size : Node → Nat
  | .mk _ kids => sizeAll kids + 1

/-- The number of nodes of several trees. -/
def sizeAll : List Node → Nat
  | [] => 0
  | n :: rest => n.size + sizeAll rest

end

theorem Node.size_eq (n : Node) : n.size = sizeAll n.children + 1 := by
  cases n with
  | mk info kids => rw [Node.size, Node.children]

theorem sizeAll_eq_total (kids : List Node) : sizeAll kids = total (kids.map Node.size) := by
  induction kids with
  | nil => rfl
  | cons n kids ih => rw [sizeAll, ih, List.map_cons, total]

theorem Cursor.total_size_children (c : Cursor) :
    total (c.children.map (·.node.size)) = sizeAll c.node.children := by
  have hnodes : c.node.children.map Node.size = c.children.map (·.node.size) := by
    rw [← List.zipIdx_map_fst 0 c.node.children, List.map_map, Cursor.children, List.map_map]
    rfl
  rw [← hnodes, sizeAll_eq_total]

/-! ## Nodes of an outline -/

/-- A node of an outline, with the parser's node behind it. -/
structure OutlineNode where
  kind : String
  first : Nat
  last : Nat
  location : Location
  handle : Cursor
  parent : Option Nat
  children : List Nat := []
  owned : Bool := false
  deriving Inhabited

namespace OutlineNode

/-- A node for a node of the parser's tree, which belongs to no outline yet. -/
def wrap (c : Cursor) (parent : Option Nat) : OutlineNode :=
  { kind := c.kind, first := c.node.info.first, last := c.node.info.last
    location := c.location, handle := c, parent := parent }

end OutlineNode

/-- The nodes of an outline by their numbers, and what the parser complained about. -/
structure Outline where
  nodes : Array OutlineNode
  diagnostics : Array Diagnostic
  deriving Inhabited

/-! ## Making an outline -/

/-- An outline in the making: the nodes whose children have still to be looked at are kept with
their numbers, the next one first. -/
structure Conversion extends Outline where
  pending : List (Cursor × Nat)

namespace Conversion

/-- The start, with the root as the only node. -/
def start (root : Node) : Conversion :=
  { nodes := #[{ OutlineNode.wrap (.root root) none with owned := true }], diagnostics := #[]
    pending := [(.root root, 0)] }

/-- Notes a complaint. -/
def complain (s : Conversion) (d : Diagnostic) : Conversion :=
  { s with diagnostics := s.diagnostics.push d }

/-- Looks at a child of the node with a given number: a missing one is complained about, a token is
passed over, any other becomes a node. -/
def look (up : Nat) (s : Conversion) (child : Cursor) : Conversion :=
  if child.node.info.missing then s.complain (.ofMissing child.node.info)
  else if !child.node.isNamed then s
  else
    let number := s.nodes.size
    let linked := s.nodes.modify up fun n => { n with children := n.children ++ [number] }
    { s with
      nodes := linked.push { OutlineNode.wrap child (some up) with owned := true }
      pending := (child, number) :: s.pending }

/-- Takes a node: its error mark is complained about, and all its children are looked at. -/
def take (source : ByteArray) (c : Cursor) (number : Nat) (s : Conversion) : Conversion :=
  c.children.foldl (look number)
    (if c.node.info.broken then s.complain (.ofBroken source c.node.info) else s)

/-- The number of nodes of the parser's tree that lie at or below pending nodes. -/
def work (s : Conversion) : Nat :=
  total (s.pending.map fun p => p.1.node.size)

theorem work_look_le (up : Nat) (s : Conversion) (child : Cursor) :
    (look up s child).work ≤ s.work + child.node.size := by
  unfold look
  split
  · exact Nat.le_add_right _ _
  · split
    · exact Nat.le_add_right _ _
    · simp only [work, List.map_cons, total]
      omega

theorem work_foldl_look_le (up : Nat) (kids : List Cursor) (s : Conversion) :
    (kids.foldl (look up) s).work ≤ s.work + total (kids.map (·.node.size)) := by
  induction kids generalizing s with
  | nil => simp
  | cons child kids ih =>
      have hstep := work_look_le up s child
      have hrest := ih (look up s child)
      simp only [List.foldl_cons, List.map_cons, total]
      omega

/-- Taking a node leaves less work than the node was. -/
theorem work_take_lt (source : ByteArray) (c : Cursor) (number : Nat) (s : Conversion) :
    (take source c number s).work < s.work + c.node.size := by
  have hkids : total (c.children.map (·.node.size)) + 1 = c.node.size := by
    rw [Cursor.total_size_children, Node.size_eq]
  have hstart : (if c.node.info.broken then s.complain (.ofBroken source c.node.info)
      else s).work = s.work := by
    split <;> rfl
  have hlook := work_foldl_look_le number c.children
    (if c.node.info.broken then s.complain (.ofBroken source c.node.info) else s)
  unfold take
  omega

/-- Takes nodes until none is pending. -/
def run (source : ByteArray) : Conversion → Outline
  | ⟨o, []⟩ => o
  | ⟨o, (c, number) :: rest⟩ => run source (take source c number ⟨o, rest⟩)
termination_by s => s.work
decreasing_by
  have hless := work_take_lt source c number ⟨o, rest⟩
  simp only [work, List.map_cons, total] at hless ⊢
  omega

end Conversion

namespace Outline

/-- The outline of a parser's tree. -/
def ofTree (source : ByteArray) (root : Node) : Outline :=
  Conversion.run source (.start root)

/-- The children of a node, by its number. -/
def childrenOf (o : Outline) (number : Nat) : List Nat :=
  ((o.nodes[number]?).map (·.children)).getD []

/-- The walk behind `walk`: at most so many nodes, from a stack of numbers. -/
def walkFrom (o : Outline) : Nat → List Nat → List Nat
  | 0, _ => []
  | _, [] => []
  | fuel + 1, number :: stack => number :: o.walkFrom fuel (o.childrenOf number ++ stack)

/-- The numbers of the nodes in pre-order.  A walk visits no more nodes than there are. -/
def walk (o : Outline) : List Nat :=
  o.walkFrom o.nodes.size [0]

/-- The nodes in pre-order. -/
def walkNodes (o : Outline) : List OutlineNode :=
  o.walk.filterMap fun number => o.nodes[number]?

end Outline
end Syntax
end CrossAudit
