import CrossAudit.Graph.Focus

/-!
# Graphs in the DOT language

Nodes are grouped in clusters, which are sorted by name.  Edges on a cycle are red, and those that
go over HTTP are dashed.
-/

namespace CrossAudit
namespace Graph
namespace Dot

/-- Escapes the characters that would end a quoted name. -/
def escapeChars : List Char → List Char
  | [] => []
  | c :: rest =>
    if c == '\\' || c == '"' then '\\' :: c :: escapeChars rest else c :: escapeChars rest

/-- The text of a name between its quotes. -/
def escape (s : String) : String :=
  String.ofList (escapeChars s.toList)

/-- A name between quotes. -/
def quoted (s : String) : String :=
  "\"" ++ escape s ++ "\""

/-- The colour of each language. -/
def colours : List (String × String) :=
  [("python", "#3572A5"), ("typescript", "#3178c6"), ("javascript", "#f1e05a"), ("go", "#00ADD8")]

/-- The colour of a language. -/
def colourOf (language : String) : String :=
  (colours.lookup language).getD "#777777"

/-- The cluster that a node stands in. -/
def clusterOf (n : Node) : String :=
  if n.cluster == "" then n.language else n.cluster

/-- The clusters of nodes, sorted by name. -/
def clusters (nodes : List Node) : List (String × List Node) :=
  (Assoc.group (fun n => some (clusterOf n)) nodes).mergeSort fun a b => decide (a.1 ≤ b.1)

/-- The line of a node. -/
def nodeLine (n : Node) : String :=
  "    " ++ quoted n.id ++ " [label=\"" ++ escape n.type ++ "\\n" ++ escape n.name ++
    "\", fillcolor=\"" ++ colourOf n.language ++ "\"];"

/-- The lines of a cluster. -/
def clusterLines (index : Nat) (cluster : String × List Node) : List String :=
  ["  subgraph \"cluster_" ++ toString index ++ "\" \x7b",
    "    label=" ++ quoted cluster.1 ++ ";"] ++
  cluster.2.map nodeLine ++ ["  \x7d"]

/-- The line of an edge. -/
def edgeLine (cyclic : List (String × String)) (e : Edge) : String :=
  "  " ++ quoted e.source ++ " -> " ++ quoted e.target ++ " [label=" ++ quoted e.type ++
    (if cyclic.contains (e.source, e.target) then ", color=red" else "") ++
    (if e.protocol == some "http" then ", style=dashed" else "") ++ "];"

/-- The lines of a graph. -/
def lines (g : Graph) (focus : String) : List String :=
  let (nodes, edges) := focused g focus
  let cyclic := g.cycles.flatMap Cycle.links
  ["digraph Dependencies \x7b", "  rankdir=LR;",
    "  node [shape=box, style=filled, fontcolor=white];"] ++
  (clusters nodes).zipIdx.flatMap (fun (c, i) => clusterLines i c) ++
  edges.map (edgeLine cyclic) ++ ["\x7d"]

/-- A graph in the DOT language. -/
def render (g : Graph) (focus : String) : String :=
  Text.join "\n" (lines g focus)

end Dot
end Graph
end CrossAudit
