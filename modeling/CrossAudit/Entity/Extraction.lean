import CrossAudit.Adapter.Registry
import CrossAudit.Entity.Basic
import CrossAudit.Entity.Id
import CrossAudit.Finding
import CrossAudit.Http.TypeShape
import CrossAudit.Workspace

/-!
# Entities of source files

Turns the declarations of each file into entities: the module itself, then functions, classes,
interfaces and endpoints.  A request is noted on the innermost function around it, or else on the
module.  A file that cannot be read or understood leaves an error record and the others are not
affected; the names that it had already taken stay taken.
-/

namespace CrossAudit
namespace Extraction

open Syntax

/-! ## Shapes and contracts -/

/-- Bases that make a class a data shape. -/
def schemaBases : List String :=
  ["BaseModel", "TypedDict", "Schema", "SQLModel", "Model", "Struct", "NamedTuple"]

/-- Endings of decorators that make a class a data shape. -/
def schemaDecorators : List String :=
  ["dataclass", "attr.s", "attrs.define", "define", "Entity", "Schema"]

/-- Whether a class is a data shape. -/
def isSchemaClass (bases decorators : List String) : Bool :=
  (bases.any fun b => schemaBases.contains (Text.lastPiece '.' b)) ||
    decorators.any fun d => schemaDecorators.any (Text.endsWith (Text.firstPiece '(' d))

/-- The body shape that a declared type stands for. -/
def bodySchema (type : Option String) : Option TypeSchema :=
  (Http.typeShape? type).map fun shape =>
    if shape == "array" then
      .mk "array" [] (some (.mk "object" [] none [] none)) [] type
    else .mk shape [] none [] type

/-- The contract that a route declares. -/
def contractOf (e : EndpointDecl) : ApiContract where
  request := bodySchema e.requestType
  response := bodySchema e.responseType
  authentication := if e.requiresAuth then some {} else none
  deprecated := e.deprecated

/-! ## One entity per declaration -/

/-- What an entity is before it has a name in the run: where it starts, and its fields. -/
structure Draft where
  kind : String
  line : Nat
  col : Nat
  entity : Entity

/-- The common fields of an entity. -/
def blank (d : Document) (kind name : String) (location : Location) : Entity :=
  { id := "", name := name, language := d.language, file := d.path, type := kind
    startLine := location.startLine, endLine := location.stopLine }

/-- The visibility of a declaration. -/
def visibilityOf (isExported : Bool) : String :=
  if isExported then "public" else "private"

/-- The entity of a file. -/
def moduleDraft (a : Adapter) (d : Document) : Draft :=
  let imports := (a.imports d).map fun i =>
    Json.obj [("source", .str i.source),
      ("names", .ofTexts (i.names.map fun n =>
        match n.aliasName with
        | some alt => if alt == "" then n.name else alt
        | none => n.name))]
  { kind := "module", line := 1, col := 1
    entity :=
      { blank d "module" (PathName.ofString d.path).stem d.root.info.location with
        metadata := [("imports", .arr imports),
          ("exports", .ofTexts ((a.exports d).map ExportDecl.name))] } }

/-- The entity of a function. -/
def functionDraft (d : Document) (f : FunctionDecl) : Draft :=
  { kind := "function", line := f.location.start.line, col := f.location.start.col
    entity :=
      { blank d "function" f.name f.location with
        signature := some f.signature
        parameters := f.parameters
        returnType := f.returnType
        visibility := visibilityOf f.isExported
        isExported := f.isExported
        isAsync := f.isAsync
        className := f.className
        documentation := f.documentation
        complexity := f.complexity
        metadata := [("call_names", .ofTexts f.calls), ("is_method", .bool f.isMethod),
          ("decorators", .ofTexts f.decorators)] } }

/-- The entity of a class. -/
def classDraft (d : Document) (c : ClassDecl) : Draft :=
  let kind := if isSchemaClass c.bases c.decorators then "schema" else "class"
  { kind := kind, line := c.location.start.line, col := c.location.start.col
    entity :=
      { blank d kind c.name c.location with
        properties := c.properties.filter fun p => p.visibility == "public"
        visibility := visibilityOf c.isExported
        isExported := c.isExported
        bases := c.bases
        implements := c.implements
        documentation := c.documentation
        metadata := [("methods", .ofTexts (c.methods.map FunctionDecl.name)),
          ("abstract", .bool c.isAbstract), ("decorators", .ofTexts c.decorators)] } }

/-- The entity of an interface. -/
def interfaceDraft (d : Document) (i : InterfaceDecl) : Draft :=
  { kind := "interface", line := i.location.start.line, col := i.location.start.col
    entity :=
      { blank d "interface" i.name i.location with
        properties := (i.members.filter fun m => m.kind == .property).map fun m =>
          { name := m.name, type := m.type, optional := m.optional }
        isExported := i.isExported
        bases := i.bases
        documentation := i.documentation
        metadata := [("methods",
          .ofTexts ((i.members.filter fun m => m.kind == .method).map InterfaceMember.name))] } }

/-- The entity of a route. -/
def endpointDraft (d : Document) (e : EndpointDecl) : Draft :=
  { kind := "endpoint", line := e.location.start.line, col := e.location.start.col
    entity :=
      { blank d "endpoint" (e.method ++ " " ++ e.path) e.location with
        returnType := e.responseType
        apiEndpoint := some e.path
        apiMethod := some e.method
        apiContract := some (contractOf e)
        metadata := [("handler", .ofText? e.handler), ("framework", .str e.framework)] } }

/-- Names the drafts of a file in order. -/
def name : IdPool → List Draft → List Entity × IdPool
  | pool, [] => ([], pool)
  | pool, d :: rest =>
    let (id, pool) :=
      pool.allocate d.entity.language d.kind d.entity.file d.entity.name d.line d.col
    let (entities, pool) := name pool rest
    ({ d.entity with id := id } :: entities, pool)

/-! ## Requests -/

/-- The note on a request. -/
def callNote (c : ApiCall) : Json :=
  .obj [("method", .str c.method), ("url", .str c.url), ("line", .ofNat c.location.start.line),
    ("column", .ofNat c.location.start.col), ("has_auth", .bool c.hasAuth),
    ("expected_response_type", .ofText? c.expectedType), ("client", .str c.client)]

/-- The number of lines that an entity spans beyond its first. -/
def span (e : Entity) : Int :=
  e.endLine - e.startLine

/-- The shorter of two entities, the earlier one if they are equally long. -/
def shorter (best : Option Entity) (e : Entity) : Option Entity :=
  match best with
  | some b => if span e < span b then some e else some b
  | none => some e

/-- The function that a line belongs to: the shortest whose lines contain it. -/
def ownerOf (line : Nat) (functions : List Entity) : Option Entity :=
  let line : Int := line
  (functions.filter fun f => f.startLine ≤ line && line ≤ f.endLine).foldl shorter none

/-- Adds a note on a request to an entity. -/
def noteCall (note : Json) (e : Entity) : Entity :=
  let known := ((e.metadata.lookup "api_calls").map Json.items).getD []
  { e with metadata := Json.setMember "api_calls" (.arr (known ++ [note])) e.metadata }

/-- Attaches a request to the entity that owns it; the first entity is the module. -/
def attach (entities : List Entity) (call : ApiCall) : List Entity :=
  let functions := entities.filter fun e => e.type == "function"
  let owner := (ownerOf call.location.startLine functions).or entities.head?
  entities.map fun e =>
    if owner.any fun o => o.id == e.id then noteCall (callNote call) e else e

/-! ## Files -/

/-- The drafts of a file. -/
def drafts (a : Adapter) (d : Document) : List Draft :=
  moduleDraft a d :: (a.functions d).map (functionDraft d) ++ (a.classes d).map (classDraft d) ++
    (a.interfaces d).map (interfaceDraft d) ++ (a.endpoints d).map (endpointDraft d)

/-- The entities of a document, and the names taken for them. -/
def ofDocument (a : Adapter) (d : Document) (pool : IdPool) :
    Except Adapter.Fault (List Entity) × IdPool :=
  let (entities, pool) := name pool (drafts a d)
  ((a.apiCalls d).map fun calls => calls.foldl attach entities, pool)

/-- What an extraction found. -/
structure Yield where
  entities : List Entity := []
  errors : List ErrorRecord := []
  processed : Nat := 0
  deriving Inhabited

/-- Two yields after each other. -/
def Yield.append (x y : Yield) : Yield :=
  ⟨x.entities ++ y.entities, x.errors ++ y.errors, x.processed + y.processed⟩

/-- An error record on a file. -/
def fileError (a : Adapter) (path kind error : String) : ErrorRecord :=
  { error := error, kind := kind, file := some path, language := some a.language }

/-- The record of a document's complaints, if there are any. -/
def parseErrors (a : Adapter) (d : Document) : List ErrorRecord :=
  if d.diagnostics.isEmpty then []
  else [fileError a d.path "parse" ("Parse error: " ++ summarize d.diagnostics)]

/-- The entities of one file. -/
def ofFile (w : Workspace) (a : Adapter) (file : String) (pool : IdPool) : Yield × IdPool :=
  let path := normalPath file
  match w.read path with
  | .error e => ({ errors := [fileError a path "read" ("Read error: " ++ e.message)] }, pool)
  | .ok content =>
    let d := w.parse a path content
    match ofDocument a d pool with
    | (.ok entities, pool) =>
      ({ entities := entities, errors := parseErrors a d, processed := 1 }, pool)
    | (.error fault, pool) =>
      ({ errors := parseErrors a d ++
          [fileError a path "analysis" ("Extraction error: " ++ fault.message)] }, pool)

/-- The entities of some files, in order; files without an adapter are passed over. -/
def ofFiles (w : Workspace) (r : Registry) : List String → IdPool → Yield × IdPool
  | [], pool => ({}, pool)
  | file :: rest, pool =>
    match r.adapterFor? file with
    | none => ofFiles w r rest pool
    | some a =>
      let (here, pool) := ofFile w a file pool
      let (others, pool) := ofFiles w r rest pool
      (here.append others, pool)

/-- The entities of some files, with all names free at the start. -/
def run (w : Workspace) (r : Registry) (files : List String) : Yield :=
  (ofFiles w r files {}).1

/-- The entities of some files, unless a path among them holds a null byte. -/
def attempt (w : Workspace) (r : Registry) (files : List String) : Except Fault Yield :=
  if files.any fun f => (r.adapterFor? f).isSome && Workspace.holdsNull f then .error .nullByte
  else .ok (run w r files)

end Extraction
end CrossAudit
