import CrossAudit.Syntax.Location

/-!
# Syntax trees

A parser's tree, with every token.  A node has a kind, a byte range, three marks and, under its
parent, perhaps a role.  A `Cursor` is a node together with the way up to the root, so that
parents and earlier siblings can be asked for; two cursors of one tree are the same place exactly
when their paths agree.

The *outline* of a tree keeps the root and, below a kept node, the children that are named and
not missing.  `Cursor.scan` lists a node and what lies below it in pre-order, following a choice
of children.
-/

namespace CrossAudit
namespace Syntax

/-! ## Nodes -/

/-- What a node says of itself. -/
structure NodeInfo where
  kind : String
  first : Nat
  last : Nat
  named : Bool := true
  missing : Bool := false
  broken : Bool := false
  role : Option String := none
  location : Location
  deriving Repr, DecidableEq, Inhabited

/-- A node and its children in order. -/
inductive Node where
  | mk (info : NodeInfo) (children : List Node)
  deriving Repr, Inhabited

namespace Node

/-- What the node says of itself. -/
def info : Node → NodeInfo
  | .mk i _ => i

/-- The children in order, tokens included. -/
def children : Node → List Node
  | .mk _ cs => cs

/-- The kind of a node. -/
def kind (n : Node) : String := n.info.kind

/-- Whether a node is more than a token. -/
def isNamed (n : Node) : Bool := n.info.named

/-- Whether the outline keeps a child. -/
def isKept (n : Node) : Bool := n.info.named && !n.info.missing

end Node

/-! ## Trees from rows -/

/-- One line of a flat listing: the place of the parent, and the node. -/
structure Row where
  parent : Option Nat
  info : NodeInfo
  deriving Repr, Inhabited

/-- One step of `ofRows`: closes the node of a row and hands it to its parent. -/
def closeRow (entry : Row × Nat) (state : Array (List Node) × Option Node) :
    Array (List Node) × Option Node :=
  let (row, index) := entry
  let node := Node.mk row.info (state.1.getD index [])
  match row.parent with
  | some p => (state.1.modify p (node :: ·), some node)
  | none => (state.1, some node)

/-- The tree of a listing in which every parent stands before its children. -/
def ofRows (rows : List Row) : Option Node :=
  (rows.zipIdx.foldr closeRow (Array.replicate rows.length [], none)).2

/-! ## Cursors -/

/-- A node and the way to it: the nodes above with the place taken in each, nearest first. -/
structure Cursor where
  node : Node
  above : List (Node × Nat)
  deriving Repr, Inhabited

mutual

/-- A node and, if it may be entered, what lies below it, in pre-order; only selected children
are followed, the last one first if the scan goes backward. -/
def Node.scan (select enter : Node → Bool) (backward : Bool) (above : List (Node × Nat)) :
    Node → List Cursor
  | .mk info kids =>
    ⟨.mk info kids, above⟩ ::
      (if enter (.mk info kids) then
        scanChildren select enter backward (.mk info kids) above 0 kids
      else [])

/-- The scans of a list of children, the first of which stands at the given place. -/
def scanChildren (select enter : Node → Bool) (backward : Bool) (parent : Node)
    (above : List (Node × Nat)) : Nat → List Node → List Cursor
  | _, [] => []
  | place, child :: rest =>
    let here :=
      if select child then Node.scan select enter backward ((parent, place) :: above) child else []
    let others := scanChildren select enter backward parent above (place + 1) rest
    if backward then others ++ here else here ++ others

end

namespace Cursor

/-- The cursor at the root of a tree. -/
def root (n : Node) : Cursor := ⟨n, []⟩

/-- The kind of the node. -/
def kind (c : Cursor) : String := c.node.kind

/-- The location of the node. -/
def location (c : Cursor) : Location := c.node.info.location

/-- The places taken on the way up, nearest first. -/
def path (c : Cursor) : List Nat := c.above.map (·.2)

/-- Whether two cursors of one tree are the same place. -/
def sameAs (c d : Cursor) : Bool := c.path == d.path

/-- The node above. -/
def parent? (c : Cursor) : Option Cursor :=
  match c.above with
  | [] => none
  | (p, _) :: rest => some ⟨p, rest⟩

/-- The walk behind `ancestors`. -/
def ancestorsOf : List (Node × Nat) → List Cursor
  | [] => []
  | (p, _) :: rest => ⟨p, rest⟩ :: ancestorsOf rest

/-- The nodes above, nearest first. -/
def ancestors (c : Cursor) : List Cursor := ancestorsOf c.above

/-- All children, tokens included. -/
def children (c : Cursor) : List Cursor :=
  c.node.children.zipIdx.map fun (n, i) => ⟨n, (c.node, i) :: c.above⟩

/-- The children that are more than tokens. -/
def named (c : Cursor) : List Cursor :=
  c.children.filter (·.node.isNamed)

/-- The children of the outline. -/
def kept (c : Cursor) : List Cursor :=
  c.children.filter (·.node.isKept)

/-- The children in a role. -/
def inRole (c : Cursor) (role : String) : List Cursor :=
  c.children.filter (·.node.info.role == some role)

/-- The first child in a role. -/
def role? (c : Cursor) (role : String) : Option Cursor :=
  (c.inRole role).head?

/-- Whether some child, be it a token, is of a kind. -/
def hasToken (c : Cursor) (kind : String) : Bool :=
  c.node.children.any (·.kind == kind)

/-- The earlier siblings that are more than tokens, nearest first. -/
def namedBefore (c : Cursor) : List Cursor :=
  match c.above with
  | [] => []
  | (p, i) :: rest =>
    (((Cursor.mk p rest).children.take i).filter (·.node.isNamed)).reverse

/-- The node and what lies below it along selected children. -/
def scan (select enter : Node → Bool) (backward : Bool) (c : Cursor) : List Cursor :=
  c.node.scan select enter backward c.above

/-- The outline from this node on, in pre-order. -/
def walk (c : Cursor) : List Cursor :=
  c.scan Node.isKept (fun _ => true) false

end Cursor
end Syntax
end CrossAudit
