import CrossAudit.Syntax.Outline

/-!
# Parsed files

A `Document` is a source file with its syntax tree and what the parser complained about.  When
there is no tree the document is a single node that spans the file, with one complaint.  The nodes
of a document are those of the outline of its tree.
-/

namespace CrossAudit
namespace Syntax

/-- A parsed file. -/
structure Document where
  language : String
  path : String
  source : ByteArray
  root : Node
  diagnostics : List Diagnostic
  deriving Inhabited

namespace Document

/-- The document of a file that could not be parsed. -/
def unparsed (language path : String) (source : ByteArray) (reason : String) : Document :=
  let lines := (feedsFrom 0 source.toList).length + 1
  let location : Location := ⟨⟨1, 1⟩, ⟨lines, 1⟩⟩
  { language := language, path := path, source := source
    root := .mk { kind := "ERROR", first := 0, last := source.size, location := location } []
    diagnostics := [⟨"internal", "Parser failure: " ++ reason, location, "error"⟩] }

/-- The document of a file, given what the parser answered: a reason, or a tree. -/
def ofParse (language path : String) (source : ByteArray) (outcome : Except String Node) :
    Document :=
  match outcome with
  | .error reason => unparsed language path source reason
  | .ok root =>
    { language := language, path := path, source := source, root := root
      diagnostics := (Outline.ofTree source root).diagnostics.toList }

/-- The outline of the document. -/
def outline (d : Document) : Outline :=
  .ofTree d.source d.root

/-- The nodes of the outline in pre-order, each as a place in the parser's tree. -/
def walk (d : Document) : List Cursor :=
  d.outline.walkNodes.map (·.handle)

/-- The nodes of the outline that are of one of some kinds. -/
def nodesOf (d : Document) (kinds : List String) : List Cursor :=
  d.walk.filter fun c => kinds.contains c.kind

/-- The source text of a node. -/
def text (d : Document) (c : Cursor) : String :=
  Utf8.toText (d.source.extract c.node.info.first c.node.info.last)

/-- The source text of a node that may be absent; then it is empty. -/
def textOf (d : Document) (c : Option Cursor) : String :=
  (c.map d.text).getD ""

/-- The source text of the first child in a role. -/
def roleText (d : Document) (c : Cursor) (role : String) : String :=
  d.textOf (c.role? role)

/-- The source text of the first child in a role, unless it is empty. -/
def roleText? (d : Document) (c : Cursor) (role : String) : Option String :=
  let s := d.roleText c role
  if s == "" then none else some s

/-- The name of a node: the text of its child in that role. -/
def nameOf? (d : Document) (c : Cursor) : Option String :=
  (c.role? "name").map d.text

/-- The whole file as text. -/
def fullText (d : Document) : String :=
  Utf8.toText d.source

end Document

/-- Complaints in an error record: the first three, and how many more there are. -/
def summarize (ds : List Diagnostic) : String :=
  let shown := String.intercalate "; " ((ds.take 3).map Diagnostic.toString)
  if 3 < ds.length then shown ++ s!" (+{ds.length - 3} more)" else shown

end Syntax
end CrossAudit
