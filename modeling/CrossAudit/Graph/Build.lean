import CrossAudit.Config
import CrossAudit.Entity.Basic
import CrossAudit.Graph.Cluster
import CrossAudit.Graph.Depth

/-!
# Building graphs

The graph of entities and references has a node for each entity that the options select, and an
edge for each reference between two of them.  A graph can be narrowed to what lies within some
steps of given nodes.
-/

namespace CrossAudit
namespace Graph

/-- Which entities a graph takes, how it groups them, and which cycles are critical. -/
structure Options where
  criticalLength : Int := Config.criticalCycleLength
  includeTests : Bool := true
  excludedLanguages : List String := []
  clusterByPackage : Bool := true
  deriving Repr

/-- Whether an entity is taken. -/
def Options.selects (o : Options) (e : Entity) : Bool :=
  !o.excludedLanguages.contains e.language && (o.includeTests || !isTestFile e.file)

/-- How much an entity weighs: public, complex and interface-like ones weigh more. -/
def weightOf (e : Entity) : Int :=
  1 + (if e.isExported || e.visibility == "public" then 2 else 0) +
    (if 5 < e.complexity then e.complexity / 5 else 0) +
    (if e.type == "interface" || e.type == "service" then 3 else 0)

/-- The node of an entity. -/
def nodeOf (o : Options) (e : Entity) : Node :=
  { id := e.id, name := e.name, language := e.language, type := e.type, file := e.file
    weight := weightOf e
    cluster := if o.clusterByPackage then packageOf e.file e.language else e.language }

/-- The edge of a reference. -/
def edgeOf (r : Reference) : Edge :=
  { source := r.sourceId, target := r.targetId, type := r.type, weight := r.confidence
    protocol := r.protocol }

/-- Adds an edge, unless one with the same ends and kind is there. -/
def addEdge (edges : List Edge) (e : Edge) : List Edge :=
  if edges.any fun x => x.key == e.key then edges else edges ++ [e]

/-- The edges of references among nodes. -/
def edgesAmong (ids : List String) (references : List Reference) : List Edge :=
  ((references.filter fun r => ids.contains r.sourceId && ids.contains r.targetId).map
    edgeOf).foldl addEdge []

/-- The graph of nodes and edges, with its cycles and figures. -/
def assemble (o : Options) (nodes : List Node) (edges : List Edge) : Graph :=
  let adj := tableOf nodes edges
  let order := nodes.map (·.id)
  let cycles := detectCycles o.criticalLength order adj
  { nodes := nodes
    edges := edges
    cycles := cycles
    metrics := measure order adj edges.length cycles.length }

/-- The graph of entities and references. -/
def build (o : Options) (entities : List Entity) (references : List Reference) : Graph :=
  let nodes := (entities.filter o.selects).map (nodeOf o)
  assemble o nodes (edgesAmong (nodes.map (·.id)) references)

/-! ## Narrowing -/

/-- The targets of a list of nodes that are not among the nodes reached. -/
def frontier (adj : Adjacency) (reached edge : List String) : List String :=
  (edge.flatMap adj.targets).filter fun n => !reached.contains n

/-- What lies within a number of steps, given what is reached and the part of it reached last. -/
def ballFrom (adj : Adjacency) : Nat → List String → List String → List String
  | 0, reached, _ => reached
  | steps + 1, reached, edge =>
    let next := (frontier adj reached edge).eraseDups
    if next.isEmpty then reached else ballFrom adj steps (reached ++ next) next

/-- The nodes within a number of steps of the given ones. -/
def ball (adj : Adjacency) (steps : Nat) (focus : List String) : List String :=
  let start := focus.filter fun f => (adj.lookup f).isSome
  ballFrom adj steps start start

/-- The part of a graph on some of its nodes. -/
def restrict (o : Options) (g : Graph) (kept : List String) : Graph :=
  assemble o (g.nodes.filter fun n => kept.contains n.id)
    (g.edges.filter fun e => kept.contains e.source && kept.contains e.target)

/-- The part of a graph within a number of steps of the given nodes. -/
def narrow (o : Options) (g : Graph) (focus : List String) (steps : Nat) : Graph :=
  restrict o g (ball g.adjacency steps focus)

end Graph
end CrossAudit
