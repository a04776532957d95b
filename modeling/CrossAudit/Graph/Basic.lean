import CrossAudit.Assoc
import CrossAudit.Reference.Basic

/-!
# Dependency graphs

The nodes of a graph are entities, its edges are references between them.  Two edges may join the
same nodes if they are of different kinds; the adjacency table of a graph lists each target once.
-/

namespace CrossAudit
namespace Graph

/-! ## Adjacency tables -/

/-- The targets of each node. -/
abbrev Adjacency := List (String × List String)

/-- The targets of a node; a node that is not listed has none. -/
def Adjacency.targets (adj : Adjacency) (node : String) : List String :=
  (adj.lookup node).getD []

/-- The nodes of a start list, and everything that a table leads to. -/
def Adjacency.mentioned (order : List String) (adj : Adjacency) : List String :=
  order ++ adj.flatMap (·.2)

/-! ## Parts of a graph -/

/-- An entity in a graph. -/
structure Node where
  id : String
  name : String
  language : String
  type : String
  file : String
  weight : Int := 1
  cluster : String
  deriving Repr, DecidableEq, Inhabited

/-- A reference in a graph; its weight is the reference's confidence. -/
structure Edge where
  source : String
  target : String
  type : String
  weight : Binary64
  protocol : Option String := none
  deriving Repr, DecidableEq, Inhabited

/-- What tells edges apart. -/
def Edge.key (e : Edge) : String × String × String :=
  (e.source, e.target, e.type)

/-- A closed walk: each node leads to the next one, and the last to the first. -/
structure Cycle where
  nodes : List String
  severity : String
  deriving Repr, DecidableEq, Inhabited

/-- The nodes of a cycle with the first one repeated at the end. -/
def Cycle.path (c : Cycle) : List String :=
  c.nodes ++ c.nodes.take 1

/-- The edges of a cycle as pairs. -/
def Cycle.links (c : Cycle) : List (String × String) :=
  c.nodes.zip c.path.tail

/-- Figures about a graph. -/
structure Metrics where
  nodes : Nat := 0
  edges : Nat := 0
  cycles : Nat := 0
  components : Nat := 0
  maxDepth : Nat := 0
  averageDepth : Binary64 := .zero
  density : Binary64 := .zero
  deriving Repr, DecidableEq, Inhabited

end Graph

/-- A dependency graph. -/
structure Graph where
  nodes : List Graph.Node := []
  edges : List Graph.Edge := []
  cycles : List Graph.Cycle := []
  metrics : Graph.Metrics := {}
  deriving Repr, DecidableEq, Inhabited

namespace Graph

/-- Adds a target to a list, unless it is there. -/
def addTarget (target : String) (targets : List String) : List String :=
  if targets.contains target then targets else targets ++ [target]

/-- The adjacency table of nodes and edges. -/
def tableOf (nodes : List Node) (edges : List Edge) : Adjacency :=
  edges.foldl (fun adj e => Assoc.update e.source [] (addTarget e.target) adj)
    (Assoc.ofPairs (nodes.map fun n => (n.id, [])))

/-- The adjacency table of a graph. -/
def adjacency (g : Graph) : Adjacency :=
  tableOf g.nodes g.edges

/-! ## Documents -/

/-- A node as a document. -/
def Node.toJson (n : Node) : Json :=
  .obj [("id", .str n.id), ("name", .str n.name), ("language", .str n.language),
    ("type", .str n.type), ("file", .str n.file), ("weight", .int n.weight),
    ("cluster", .str n.cluster)]

/-- An edge as a document. -/
def Edge.toJson (e : Edge) : Json :=
  .obj [("source", .str e.source), ("target", .str e.target), ("type", .str e.type),
    ("weight", .real e.weight), ("protocol", .ofText? e.protocol)]

/-- A cycle as a document. -/
def Cycle.toJson (c : Cycle) : Json :=
  .obj [("nodes", .ofTexts c.nodes), ("severity", .str c.severity),
    ("length", .ofNat c.nodes.length)]

/-- Figures as a document. -/
def Metrics.toJson (m : Metrics) : Json :=
  .obj [("total_nodes", .ofNat m.nodes), ("total_edges", .ofNat m.edges),
    ("cycle_count", .ofNat m.cycles), ("strongly_connected_components", .ofNat m.components),
    ("max_depth", .ofNat m.maxDepth), ("average_depth", .real m.averageDepth),
    ("density", .real m.density)]

/-- A graph as a document. -/
def toJson (g : Graph) : Json :=
  .obj [("nodes", .arr (g.nodes.map Node.toJson)), ("edges", .arr (g.edges.map Edge.toJson)),
    ("cycles", .arr (g.cycles.map Cycle.toJson)), ("metrics", g.metrics.toJson)]

end Graph
end CrossAudit
