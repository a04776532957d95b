import CrossAudit.Syntax.Location

/-!
# What a source file declares

The records that are read off a syntax tree, the same for every language: functions, classes,
interfaces, imports, exports, the HTTP routes a file serves and the HTTP requests it issues.
-/

namespace CrossAudit

/-- A parameter of a function. -/
structure Parameter where
  name : String
  type : Option String := none
  optional : Bool := false
  default : Option String := none
  deriving Repr, DecidableEq, Inhabited

/-- A function or method. -/
structure FunctionDecl where
  name : String
  location : Location
  parameters : List Parameter := []
  returnType : Option String := none
  isAsync : Bool := false
  isExported : Bool := false
  isMethod : Bool := false
  className : Option String := none
  documentation : Option String := none
  complexity : Nat := 1
  decorators : List String := []
  calls : List String := []
  deriving Repr, DecidableEq, Inhabited

/-- A field of a class or shape. -/
structure Property where
  name : String
  type : Option String := none
  visibility : String := "public"
  isStatic : Bool := false
  isReadonly : Bool := false
  optional : Bool := false
  deriving Repr, DecidableEq, Inhabited

/-- A class. -/
structure ClassDecl where
  name : String
  location : Location
  methods : List FunctionDecl := []
  properties : List Property := []
  bases : List String := []
  implements : List String := []
  isAbstract : Bool := false
  isExported : Bool := false
  documentation : Option String := none
  decorators : List String := []
  deriving Repr, DecidableEq, Inhabited

/-- What a member of an interface is. -/
inductive MemberKind where
  | method
  | property
  deriving Repr, DecidableEq, Inhabited

/-- A member of an interface. -/
structure InterfaceMember where
  name : String
  kind : MemberKind
  type : Option String := none
  optional : Bool := false
  location : Option Location := none
  deriving Repr, DecidableEq, Inhabited

/-- An interface. -/
structure InterfaceDecl where
  name : String
  location : Location
  members : List InterfaceMember := []
  bases : List String := []
  isExported : Bool := false
  documentation : Option String := none
  deriving Repr, DecidableEq, Inhabited

/-- One name brought in by an import. -/
structure ImportName where
  name : String
  aliasName : Option String := none
  isDefault : Bool := false
  isNamespace : Bool := false
  deriving Repr, DecidableEq, Inhabited

/-- An import. -/
structure ImportDecl where
  source : String
  names : List ImportName
  location : Location
  deriving Repr, DecidableEq, Inhabited

/-- An exported name. -/
structure ExportDecl where
  name : String
  location : Location
  isDefault : Bool := false
  source : Option String := none
  deriving Repr, DecidableEq, Inhabited

/-- An HTTP route that the file serves. -/
structure EndpointDecl where
  method : String
  path : String
  location : Location
  handler : Option String := none
  framework : String := ""
  requiresAuth : Bool := false
  deprecated : Bool := false
  responseType : Option String := none
  requestType : Option String := none
  deriving Repr, DecidableEq, Inhabited

/-- An HTTP request that the file issues. -/
structure ApiCall where
  method : String
  url : String
  location : Location
  client : String := ""
  hasAuth : Bool := false
  expectedType : Option String := none
  enclosing : Option String := none
  deriving Repr, DecidableEq, Inhabited

/-! ## Signatures -/

namespace FunctionDecl

/-- A parameter as a signature shows it. -/
def parameterText (p : Parameter) : String :=
  match p.type with
  | some t => if t == "" then p.name else p.name ++ ": " ++ t
  | none => p.name

/-- The signature of a function. -/
def signatureOf (name : String) (parameters : List Parameter) (returnType : Option String) :
    String :=
  let head := name ++ "(" ++ String.intercalate ", " (parameters.map parameterText) ++ ")"
  match returnType with
  | some t => if t == "" then head else head ++ " -> " ++ t
  | none => head

/-- The signature of a function. -/
def signature (f : FunctionDecl) : String :=
  signatureOf f.name f.parameters f.returnType

/-- The name of a function with its class, if it has one. -/
def label (f : FunctionDecl) : String :=
  match f.className with
  | some c => if c == "" then f.name else c ++ "." ++ f.name
  | none => f.name

end FunctionDecl

/-! ## Documents -/

namespace Parameter

/-- A parameter as a document. -/
def toJson (p : Parameter) : Json :=
  .obj [("name", .str p.name), ("type", .ofText? p.type), ("optional", .bool p.optional),
    ("default", .ofText? p.default)]

end Parameter

namespace FunctionDecl

/-- A function as a document. -/
def toJson (f : FunctionDecl) : Json :=
  .obj [("name", .str f.name), ("location", f.location.toJson),
    ("parameters", .arr (f.parameters.map Parameter.toJson)),
    ("return_type", .ofText? f.returnType), ("is_async", .bool f.isAsync),
    ("is_exported", .bool f.isExported), ("is_method", .bool f.isMethod),
    ("class_name", .ofText? f.className), ("documentation", .ofText? f.documentation),
    ("complexity", .ofNat f.complexity), ("decorators", .ofTexts f.decorators),
    ("calls", .ofTexts f.calls), ("signature", .str f.signature)]

end FunctionDecl

namespace Property

/-- A field as a document. -/
def toJson (p : Property) : Json :=
  .obj [("name", .str p.name), ("type", .ofText? p.type), ("visibility", .str p.visibility),
    ("is_static", .bool p.isStatic), ("is_readonly", .bool p.isReadonly),
    ("optional", .bool p.optional)]

end Property

namespace ClassDecl

/-- A class as a document. -/
def toJson (c : ClassDecl) : Json :=
  .obj [("name", .str c.name), ("location", c.location.toJson),
    ("methods", .arr (c.methods.map FunctionDecl.toJson)),
    ("properties", .arr (c.properties.map Property.toJson)), ("extends", .ofTexts c.bases),
    ("implements", .ofTexts c.implements), ("is_abstract", .bool c.isAbstract),
    ("is_exported", .bool c.isExported), ("documentation", .ofText? c.documentation),
    ("decorators", .ofTexts c.decorators)]

end ClassDecl

namespace InterfaceMember

/-- A member as a document. -/
def toJson (m : InterfaceMember) : Json :=
  .obj [("name", .str m.name),
    ("kind", .str (match m.kind with | .method => "method" | .property => "property")),
    ("type", .ofText? m.type), ("optional", .bool m.optional),
    ("location", (m.location.map Location.toJson).getD .null)]

end InterfaceMember

namespace InterfaceDecl

/-- An interface as a document. -/
def toJson (i : InterfaceDecl) : Json :=
  .obj [("name", .str i.name), ("location", i.location.toJson),
    ("members", .arr (i.members.map InterfaceMember.toJson)), ("extends", .ofTexts i.bases),
    ("is_exported", .bool i.isExported), ("documentation", .ofText? i.documentation)]

end InterfaceDecl

namespace ImportDecl

/-- An import as a document. -/
def toJson (i : ImportDecl) : Json :=
  .obj [("source", .str i.source),
    ("specifiers", .arr (i.names.map fun n =>
      .obj [("name", .str n.name), ("alias", .ofText? n.aliasName),
        ("is_default", .bool n.isDefault), ("is_namespace", .bool n.isNamespace)])),
    ("location", i.location.toJson)]

end ImportDecl

namespace ExportDecl

/-- An export as a document. -/
def toJson (e : ExportDecl) : Json :=
  .obj [("name", .str e.name), ("location", e.location.toJson), ("is_default", .bool e.isDefault),
    ("source", .ofText? e.source)]

end ExportDecl

namespace EndpointDecl

/-- A route as a document. -/
def toJson (e : EndpointDecl) : Json :=
  .obj [("method", .str e.method), ("path", .str e.path), ("location", e.location.toJson),
    ("handler", .ofText? e.handler), ("framework", .str e.framework),
    ("requires_auth", .bool e.requiresAuth), ("deprecated", .bool e.deprecated),
    ("response_type", .ofText? e.responseType), ("request_type", .ofText? e.requestType)]

end EndpointDecl

namespace ApiCall

/-- A request as a document. -/
def toJson (c : ApiCall) : Json :=
  .obj [("method", .str c.method), ("url", .str c.url), ("location", c.location.toJson),
    ("client", .str c.client), ("has_auth", .bool c.hasAuth),
    ("expected_response_type", .ofText? c.expectedType),
    ("enclosing_function", .ofText? c.enclosing)]

end ApiCall
end CrossAudit
