import CrossAudit.Graph.Component

/-!
# Depth

The depth of a node is the greatest number of edges between different components on a walk from
it.  Components come sinks first, so the depths of a component's successors are known when it is
reached.
-/

namespace CrossAudit
namespace Graph

/-- Components with the depth of their members. -/
abbrev Depths := List (List String × Nat)

/-- The depth of a node; zero if it is in no component. -/
def Depths.of (ds : Depths) (node : String) : Nat :=
  ((ds.find? fun d => d.1.contains node).map (·.2)).getD 0

/-- The greatest number of a list, zero if it is empty. -/
def greatest (ns : List Nat) : Nat :=
  ns.foldl max 0

/-- The depth of a component, given those of the components before it. -/
def depthOf (adj : Adjacency) (ds : Depths) (component : List String) : Nat :=
  greatest ((component.flatMap adj.targets).filterMap fun target =>
    if component.contains target then none else some (ds.of target + 1))

/-- The depths of components that come sinks first. -/
def depths (adj : Adjacency) (cs : List (List String)) : Depths :=
  cs.foldl (fun ds c => ds ++ [(c, depthOf adj ds c)]) []

/-- A quotient, zero if the divisor is. -/
def ratio (a b : Nat) : Binary64 :=
  if b = 0 then .zero else .ofRat ((a : Rat) / (b : Rat))

/-- The figures of a graph. -/
def measure (order : List String) (adj : Adjacency) (edges cycles : Nat) : Metrics :=
  let cs := components order adj
  let ds := depths adj cs
  let own := order.map ds.of
  { nodes := order.length
    edges := edges
    cycles := cycles
    components := cs.length
    maxDepth := greatest own
    averageDepth := ratio (total own) order.length
    density := ratio edges (order.length * (order.length - 1)) }

end Graph
end CrossAudit
