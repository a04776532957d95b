import CrossAudit.Declaration

/-!
# Entities

An *entity* is a module, function, class, interface, shape or endpoint, in one form for all
languages.  What its analyzer noted beyond the common fields is its metadata, a document of free
shape.  An endpoint may carry a contract: what it takes and returns, and whom it lets in.
-/

namespace CrossAudit

/-! ## Contracts -/

/-- The shape of a request or response body. -/
inductive TypeSchema where
  | mk (type : String) (properties : List (String × TypeSchema)) (items : Option TypeSchema)
      (required : List String) (ref : Option String)
  deriving Repr, Inhabited

namespace TypeSchema

/-- The coarse kind of a shape. -/
def type : TypeSchema → String
  | .mk t _ _ _ _ => t

mutual

/-- A shape as a document. -/
def toJson : TypeSchema → Json
  | .mk t ps item required ref =>
    .obj [("type", .str t), ("properties", .obj (membersToJson ps)), ("items", itemToJson item),
      ("required", .ofTexts required), ("ref", .ofText? ref)]

/-- The named parts of a shape as members of a document. -/
def membersToJson : List (String × TypeSchema) → List (String × Json)
  | [] => []
  | (k, t) :: rest => (k, t.toJson) :: membersToJson rest

/-- The shape of an array's items as a document. -/
def itemToJson : Option TypeSchema → Json
  | none => .null
  | some t => t.toJson

end

end TypeSchema

/-- An error that an endpoint may answer with. -/
structure ErrorSchema where
  code : String
  message : String := ""
  httpStatus : Option Int := none
  deriving Repr, DecidableEq, Inhabited

/-- How callers of an endpoint identify themselves. -/
structure Authentication where
  type : String := "bearer"
  header : Option String := none
  scopes : List String := []
  deriving Repr, DecidableEq, Inhabited

/-- How often an endpoint may be called. -/
structure RateLimit where
  requests : Int
  window : String
  burst : Option Int := none
  deriving Repr, DecidableEq, Inhabited

/-- What an endpoint promises. -/
structure ApiContract where
  version : String := "1"
  request : Option TypeSchema := none
  response : Option TypeSchema := none
  errors : List ErrorSchema := []
  authentication : Option Authentication := none
  rateLimit : Option RateLimit := none
  deprecated : Bool := false
  deriving Repr, Inhabited

namespace ApiContract

/-- An optional number as a document. -/
def numberJson (n : Option Int) : Json :=
  (n.map Json.int).getD .null

/-- A contract as a document. -/
def toJson (c : ApiContract) : Json :=
  .obj [("version", .str c.version), ("request", (c.request.map TypeSchema.toJson).getD .null),
    ("response", (c.response.map TypeSchema.toJson).getD .null),
    ("errors", .arr (c.errors.map fun e =>
      .obj [("code", .str e.code), ("message", .str e.message),
        ("http_status", numberJson e.httpStatus)])),
    ("authentication", (c.authentication.map fun a =>
      Json.obj [("type", .str a.type), ("header", .ofText? a.header),
        ("scopes", .ofTexts a.scopes)]).getD .null),
    ("rate_limit", (c.rateLimit.map fun r =>
      Json.obj [("requests", .int r.requests), ("window", .str r.window),
        ("burst", numberJson r.burst)]).getD .null),
    ("deprecated", .bool c.deprecated)]

end ApiContract

/-! ## Entities -/

/-- The kinds of entities. -/
def entityTypes : List String :=
  ["module", "function", "class", "interface", "struct", "schema", "endpoint", "service",
    "component"]

/-- A named thing of a source file. -/
structure Entity where
  id : String
  name : String
  language : String
  file : String
  type : String
  startLine : Int
  endLine : Int
  signature : Option String := none
  parameters : List Parameter := []
  returnType : Option String := none
  properties : List Property := []
  visibility : String := "public"
  isExported : Bool := false
  isAsync : Bool := false
  className : Option String := none
  calls : List String := []
  calledBy : List String := []
  bases : List String := []
  implements : List String := []
  apiEndpoint : Option String := none
  apiMethod : Option String := none
  apiContract : Option ApiContract := none
  documentation : Option String := none
  complexity : Int := 1
  metadata : List (String × Json) := []
  deriving Repr, Inhabited

namespace Entity

/-- The name with its class, if the entity has one. -/
def qualifiedName (e : Entity) : String :=
  match e.className with
  | some c => if c == "" then e.name else c ++ "." ++ e.name
  | none => e.name

/-- An entity as a document. -/
def toJson (e : Entity) : Json :=
  .obj [("id", .str e.id), ("name", .str e.name), ("language", .str e.language),
    ("file", .str e.file), ("type", .str e.type), ("start_line", .int e.startLine),
    ("end_line", .int e.endLine), ("signature", .ofText? e.signature),
    ("parameters", .arr (e.parameters.map Parameter.toJson)),
    ("return_type", .ofText? e.returnType),
    ("properties", .arr (e.properties.map Property.toJson)), ("visibility", .str e.visibility),
    ("is_exported", .bool e.isExported), ("is_async", .bool e.isAsync),
    ("class_name", .ofText? e.className), ("calls", .ofTexts e.calls),
    ("called_by", .ofTexts e.calledBy), ("extends", .ofTexts e.bases),
    ("implements", .ofTexts e.implements), ("api_endpoint", .ofText? e.apiEndpoint),
    ("api_method", .ofText? e.apiMethod),
    ("api_contract", (e.apiContract.map ApiContract.toJson).getD .null),
    ("documentation", .ofText? e.documentation), ("complexity", .int e.complexity),
    ("metadata", .obj e.metadata)]

end Entity
end CrossAudit
