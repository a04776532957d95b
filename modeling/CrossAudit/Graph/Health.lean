import CrossAudit.Graph.Basic
import CrossAudit.Total

/-!
# Health of a graph

A score from 0 to 100 and the issues behind it: cycles, nodes with too many edges out, and nodes
without edges.
-/

namespace CrossAudit
namespace Graph

/-- Something that lowers the score of a graph. -/
structure Issue where
  type : String
  severity : String
  description : String
  nodes : List String
  deriving Repr, DecidableEq, Inhabited

/-- How much an issue lowers the score. -/
def Issue.penalty (i : Issue) : Int :=
  ([("critical", 20), ("warning", 10), ("suggestion", 5)].lookup i.severity).getD 0

/-- The state of a graph. -/
structure Health where
  score : Int
  issues : List Issue
  hubs : List String
  orphans : List String
  deriving Repr, DecidableEq, Inhabited

/-- The number of edges out of a node. -/
def outDegree (g : Graph) (id : String) : Nat :=
  g.edges.countP fun e => e.source == id

/-- Whether a node is an end of an edge. -/
def isConnected (g : Graph) (id : String) : Bool :=
  g.edges.any fun e => e.source == id || e.target == id

/-- Whether a node has more edges out than five and than a tenth of the nodes. -/
def isHub (g : Graph) (n : Node) : Bool :=
  let degree := outDegree g n.id
  5 < degree && g.nodes.length < 10 * degree

/-- Whether a node other than a module has no edges. -/
def isOrphan (g : Graph) (n : Node) : Bool :=
  !isConnected g n.id && n.type != "module"

/-- The ids of the nodes that are hubs. -/
def hubs (g : Graph) : List String :=
  (g.nodes.filter (isHub g)).map (·.id)

/-- The ids of the nodes that are orphans. -/
def orphans (g : Graph) : List String :=
  (g.nodes.filter (isOrphan g)).map (·.id)

/-- The nodes on cycles, sorted. -/
def cyclicNodes (g : Graph) : List String :=
  ((g.cycles.flatMap (·.nodes)).eraseDups).mergeSort fun a b => decide (a ≤ b)

/-- An issue about nodes, unless there is nothing to report. -/
def issue (type severity description : String) (count : Nat) (nodes : List String) : List Issue :=
  if count = 0 then [] else [⟨type, severity, description, nodes⟩]

/-- The issues of a graph. -/
def issues (g : Graph) : List Issue :=
  issue "circular-dependency" "critical" s!"Found {g.cycles.length} circular dependencies"
    g.cycles.length (cyclicNodes g) ++
  issue "hub-nodes" "warning" s!"Found {(hubs g).length} hub nodes with excessive dependencies"
    (hubs g).length (hubs g) ++
  issue "orphaned-nodes" "suggestion" s!"Found {(orphans g).length} entities with no dependencies"
    (orphans g).length (orphans g)

/-- The health of a graph. -/
def health (g : Graph) : Health :=
  let score : Int := 100 - balance ((issues g).map Issue.penalty) - 5 * g.cycles.length -
    (if 15 < g.metrics.maxDepth then 10 else 0)
  { score := max 0 score, issues := issues g, hubs := hubs g, orphans := orphans g }

/-- An issue as a document. -/
def Issue.toJson (i : Issue) : Json :=
  .obj [("type", .str i.type), ("severity", .str i.severity), ("description", .str i.description),
    ("nodes", .ofTexts i.nodes)]

/-- The health of a graph as a document. -/
def Health.toJson (h : Health) : Json :=
  .obj [("score", .int h.score), ("issues", .arr (h.issues.map Issue.toJson)),
    ("hubs", .ofTexts h.hubs), ("orphans", .ofTexts h.orphans)]

end Graph
end CrossAudit
