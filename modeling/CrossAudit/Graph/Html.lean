import CrossAudit.Graph.Focus
import CrossAudit.Json.Printer

/-!
# Graphs as web pages

A page that lists the nodes, edges and cycles of a graph.  The graph stands in the page's script
as a document, and the script makes the lists.
-/

namespace CrossAudit
namespace Graph
namespace Html

/-- The node of a graph in the page's document. -/
def nodeJson (n : Node) : Json :=
  .obj [("id", .str n.id), ("label", .str (n.type ++ ": " ++ n.name)), ("title", .str n.file),
    ("language", .str n.language), ("cluster", .str n.cluster)]

/-- The edge of a graph in the page's document. -/
def edgeJson (e : Edge) : Json :=
  .obj [("src", .str e.source), ("dst", .str e.target), ("edge_type", .str e.type),
    ("weight", .real e.weight)]

/-- The cycle of a graph in the page's document. -/
def cycleJson (c : Cycle) : Json :=
  .obj [("nodes", .ofTexts c.nodes), ("severity", .str c.severity)]

/-- The document in the page. -/
def payload (nodes : List Node) (edges : List Edge) (cycles : List Cycle) : Json :=
  .obj [("nodes", .arr (nodes.map nodeJson)), ("edges", .arr (edges.map edgeJson)),
    ("cycles", .arr (cycles.map cycleJson))]

/-- The page down to the figures. -/
def head : List String :=
  ["<!doctype html>",
    "<html>",
    "<head>",
    "  <meta charset=\"utf-8\" />",
    "  <title>Dependency Graph</title>",
    "  <style>",
    "    body \x7b font-family: ui-monospace, SFMono-Regular, Menlo, monospace; margin: 20px; \x7d",
    "    #container \x7b display: grid; grid-template-columns: 1fr 1fr 1fr; gap: 18px; \x7d",
    "    .panel \x7b border: 1px solid #ddd; border-radius: 8px; padding: 10px; \x7d",
    "    ul \x7b list-style: none; padding: 0; margin: 0; \x7d",
    "    li \x7b margin: 4px 0; \x7d",
    "    .critical \x7b color: #c0392b; \x7d",
    "    .warning \x7b color: #d68910; \x7d",
    "  </style>",
    "</head>",
    "<body>",
    "  <h1>Dependency Graph</h1>"]

/-- The page from the figures to the script. -/
def body : List String :=
  ["  <div id=\"container\">",
    "    <div class=\"panel\">",
    "      <h2>Nodes</h2>",
    "      <ul id=\"nodes\"></ul>",
    "    </div>",
    "    <div class=\"panel\">",
    "      <h2>Edges</h2>",
    "      <ul id=\"edges\"></ul>",
    "    </div>",
    "    <div class=\"panel\">",
    "      <h2>Cycles</h2>",
    "      <ul id=\"cycles\"></ul>",
    "    </div>",
    "  </div>",
    "  <script>"]

/-- The page after the document. -/
def script : List String :=
  ["    const nodesEl = document.getElementById('nodes');",
    "    const edgesEl = document.getElementById('edges');",
    "    const cyclesEl = document.getElementById('cycles');",
    "    graph.nodes.forEach(n => \x7b",
    "      const li = document.createElement('li');",
    "      li.textContent = `[$\x7bn.language\x7d] $\x7bn.label\x7d ($\x7bn.title\x7d)`;",
    "      nodesEl.appendChild(li);",
    "    \x7d);",
    "    graph.edges.forEach(e => \x7b",
    "      const li = document.createElement('li');",
    "      li.textContent = `$\x7be.src\x7d --$\x7be.edge_type\x7d--> $\x7be.dst\x7d`;",
    "      edgesEl.appendChild(li);",
    "    \x7d);",
    "    graph.cycles.forEach(c => \x7b",
    "      const li = document.createElement('li');",
    "      li.className = c.severity;",
    "      li.textContent = c.nodes.concat([c.nodes[0]]).join(' -> ');",
    "      cyclesEl.appendChild(li);",
    "    \x7d);",
    "  </script>",
    "</body>",
    "</html>",
    ""]

/-- A graph as a web page. -/
def render (g : Graph) (focus : String) : String :=
  let (nodes, edges) := focused g focus
  let figures :=
    s!"{nodes.length} nodes, {edges.length} edges, {g.cycles.length} cycles"
  let document := (payload nodes edges g.cycles).render Json.spacedAscii
  Text.join "\n" (head ++ ["  <p>" ++ figures ++ "</p>"] ++ body ++
    ["    const graph = " ++ document ++ ";"] ++ script)

end Html
end Graph
end CrossAudit
