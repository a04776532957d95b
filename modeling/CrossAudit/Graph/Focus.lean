import CrossAudit.Graph.Basic
import CrossAudit.Text.Search

/-!
# Focus of an export

An export may be focused on a text: it then shows the nodes whose id or name contains the text,
the edges at them, and the nodes at the other ends.  A text that no node contains is no focus.
-/

namespace CrossAudit
namespace Graph

/-- Whether a node's id or name contains a text. -/
def Node.mentions (n : Node) (text : String) : Bool :=
  Text.contains n.id text || Text.contains n.name text

/-- The ids of the nodes that mention a text. -/
def mentioning (g : Graph) (text : String) : List String :=
  (g.nodes.filter fun n => n.mentions text).map (·.id)

/-- The nodes and edges that are shown. -/
def focused (g : Graph) (text : String) : List Node × List Edge :=
  let hits := mentioning g text
  if text == "" || hits.isEmpty then (g.nodes, g.edges)
  else
    let edges := g.edges.filter fun e => hits.contains e.source || hits.contains e.target
    let kept := hits ++ edges.flatMap fun e => [e.source, e.target]
    (g.nodes.filter fun n => kept.contains n.id, edges)

end Graph
end CrossAudit
