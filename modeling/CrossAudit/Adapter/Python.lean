import CrossAudit.Adapter.Vocabulary
import CrossAudit.Declaration
import CrossAudit.Http.Url
import CrossAudit.Http.Vocabulary

/-!
# Python sources

Declarations, routes and requests of a Python file, read off its syntax tree.  A class that
derives from `Protocol` is an interface.  Routes are decorators on a server object, requests are
calls on a client object.
-/

namespace CrossAudit
namespace Adapter
namespace Python

open Syntax

/-- The node kinds of the grammar. -/
def vocabulary : Vocabulary where
  functions := ["function_definition", "lambda"]
  classes := ["class_definition"]
  imports := ["import_statement", "import_from_statement", "future_import_statement"]
  loops := ["for_statement", "while_statement", "for_in_clause"]
  conditionals :=
    ["if_statement", "elif_clause", "conditional_expression", "if_clause", "case_clause"]
  catches := ["except_clause"]
  booleans := ["boolean_operator"]

/-- Bases that make a class an interface. -/
def protocolBases : List String := ["Protocol", "typing.Protocol"]

/-- Bases that make a class abstract. -/
def abstractBases : List String := ["ABC", "abc.ABC"]

/-! ## Parts of definitions -/

/-- Whether a node is a function or class definition. -/
def isDefinition (n : Node) : Bool :=
  n.kind == "function_definition" || n.kind == "class_definition"

/-- The docstring of a body: the string that is its first statement, comments apart. -/
def docstring (d : Document) (c : Cursor) : Option String :=
  let body := if c.kind == "module" then some c else c.role? "body"
  match body.bind fun b => b.named.find? (·.kind != "comment") with
  | some statement =>
    match statement.kind, statement.named.head? with
    | "expression_statement", some first =>
      if first.kind == "string" then (Http.literal? (d.text first)).map Text.strip else none
    | _, _ => none
  | none => none

/-- The bases of a class, without type arguments. -/
def bases (d : Document) (c : Cursor) : List String :=
  ((c.role? "superclasses").map Cursor.named).getD [] |>.filterMap fun arg =>
    if arg.kind == "identifier" || arg.kind == "attribute" then some (d.text arg)
    else if arg.kind == "subscript" then (arg.role? "value").map d.text
    else none

/-- Whether a class is an interface. -/
def isInterface (d : Document) (c : Cursor) : Bool :=
  c.kind == "class_definition" && (bases d c).any protocolBases.contains

/-- A decorator without its sign. -/
def decoratorText (d : Document) (c : Cursor) : String :=
  Text.strip (Text.dropLeading '@' (d.text c))

/-- The decorators of a definition. -/
def decorators (d : Document) (c : Cursor) : List String :=
  match c.parent? with
  | some p =>
    if p.kind == "decorated_definition" then
      (p.named.filter (·.kind == "decorator")).map (decoratorText d)
    else []
  | none => []

/-- The nearest definition around a node. -/
def enclosing? (c : Cursor) : Option Cursor :=
  c.ancestors.find? fun a => isDefinition a.node

/-- One parameter; other nodes of a parameter list are none. -/
def parameter? (d : Document) (c : Cursor) : Option Parameter :=
  match c.kind with
  | "identifier" => some { name := d.text c }
  | "typed_parameter" =>
    let inner := c.named.head?
    some { name := d.textOf inner, type := d.roleText? c "type"
           optional := (inner.map fun i => i.kind != "identifier").getD false }
  | "default_parameter" | "typed_default_parameter" =>
    some { name := d.roleText c "name", type := d.roleText? c "type", optional := true
           default := d.roleText? c "value" }
  | "list_splat_pattern" | "dictionary_splat_pattern" =>
    some { name := d.text c, optional := true }
  | _ => none

/-- The parameters of a list; a method's receiver is left out. -/
def parameters (d : Document) (list : Option Cursor) (isMethod : Bool) : List Parameter :=
  let all := ((list.map Cursor.named).getD []).filterMap (parameter? d)
  match all with
  | first :: rest => if isMethod && (first.name == "self" || first.name == "cls") then rest else all
  | [] => []

/-- The name that a call calls. -/
def callName? (d : Document) (c : Cursor) : Option String :=
  match c.role? "function" with
  | some f =>
    if f.kind == "identifier" then some (d.text f)
    else if f.kind == "attribute" then some (d.roleText f "attribute")
    else none
  | none => none

/-- The names called in a body, in order of first use; nested definitions are not entered. -/
def callsIn (d : Document) (body : Option Cursor) : List String :=
  match body with
  | none => []
  | some b =>
    let below := b.named.flatMap (Cursor.scan Node.isNamed (fun n => !isDefinition n) false)
    (((b :: below).filter (·.kind == "call")).filterMap (callName? d)).foldl addNew []

/-- A function definition. -/
def function (d : Document) (c : Cursor) : FunctionDecl :=
  let scope := enclosing? c
  let isMethod := (scope.map fun s => s.kind == "class_definition").getD false
  let name := d.roleText c "name"
  { name := name
    location := c.location
    parameters := parameters d (c.role? "parameters") isMethod
    returnType := d.roleText? c "return_type"
    isAsync := c.hasToken "async"
    isExported := !Text.startsWith name "_" && (scope.isNone || isMethod)
    isMethod := isMethod
    className := if isMethod then scope.map fun s => d.roleText s "name" else none
    documentation := docstring d c
    complexity := vocabulary.complexity c
    decorators := decorators d c
    calls := callsIn d (c.role? "body") }

/-! ## Classes -/

/-- Whether a type admits `None`: it is optional, or a union with `None` at either end. -/
def isOptionalType (text : String) : Bool :=
  let cs := text.toList
  let endsInNone (rest : List Char) : Bool :=
    Chars.holdsToEnd (· == "None".toList) (rest.dropWhile Text.isBlank)
  Text.startsWith text "Optional[" ||
    ((Chars.suffixes cs).any fun s =>
      match s with
      | '|' :: rest => endsInNone rest && !(cs.take (cs.length - s.length)).contains '\n'
      | _ => false) ||
    match Chars.after? "None".toList cs with
    | some rest => (rest.dropWhile Text.isBlank).head? == some '|'
    | none => false

/-- Names that start with an underscore are private. -/
def visibilityOf (name : String) : String :=
  if Text.startsWith name "_" then "private" else "public"

/-- A field declared in the body of a class. -/
def bodyProperty? (d : Document) (statement : Cursor) : Option Property :=
  match statement.kind, statement.named.head? with
  | "expression_statement", some assign =>
    if assign.kind != "assignment" then none
    else
      match assign.role? "left" with
      | some left =>
        if left.kind != "identifier" then none
        else
          let name := d.text left
          let type := d.roleText? assign "type"
          some { name := name, type := type, visibility := visibilityOf name
                 isStatic := (type.map fun t => Text.startsWith t "ClassVar").getD true
                 optional := (assign.role? "right").isSome || (type.map isOptionalType).getD false }
      | none => none
  | _, _ => none

/-- What a statement is under its decorators; one that decorates nothing is not there. -/
def undecorated? (statement : Cursor) : Option Cursor :=
  if statement.kind == "decorated_definition" then statement.role? "definition"
  else some statement

/-- The constructor that a statement of a class body defines. -/
def constructor? (d : Document) (statement : Cursor) : Option Cursor :=
  (undecorated? statement).filter fun f =>
    f.kind == "function_definition" && d.roleText f "name" == "__init__"

/-- A field that an assignment gives to `self`. -/
def selfProperty? (d : Document) (assign : Cursor) : Option Property :=
  match assign.role? "left" with
  | some left =>
    if left.kind == "attribute" && (left.role? "object").any fun o => d.text o == "self" then
      let name := d.roleText left "attribute"
      some { name := name, type := d.roleText? assign "type", visibility := visibilityOf name }
    else none
  | none => none

/-- Adds a field, unless one of that name is there. -/
def addProperty (known : List Property) (p : Property) : List Property :=
  if known.any (·.name == p.name) then known else known ++ [p]

/-- The fields of a class: those of its body, then those its constructor assigns. -/
def properties (d : Document) (c : Cursor) : List Property :=
  match c.role? "body" with
  | none => []
  | some body =>
    let declared := body.named.filterMap (bodyProperty? d)
    let assigned := body.named.flatMap fun statement =>
      match (constructor? d statement).bind (·.role? "body") with
      | some b =>
        ((b.scan Node.isNamed (fun n => !isDefinition n) true).filter
          (·.kind == "assignment")).filterMap (selfProperty? d)
      | none => []
    assigned.foldl addProperty declared

/-- The methods of a class: the functions whose nearest definition around is the class. -/
def methods (d : Document) (c : Cursor) : List FunctionDecl :=
  (c.walk.filter fun f =>
    f.kind == "function_definition" && (enclosing? f).any fun e => e.sameAs c).map (function d)

/-- A class definition. -/
def classDecl (d : Document) (c : Cursor) : ClassDecl :=
  let bs := bases d c
  let ms := methods d c
  let name := d.roleText c "name"
  { name := name
    location := c.location
    methods := ms
    properties := properties d c
    bases := bs.filter fun b => !abstractBases.contains b
    isAbstract := bs.any abstractBases.contains ||
      (ms.any fun m => m.decorators.any fun s => Text.contains s "abstractmethod") ||
      Text.contains (d.roleText c "superclasses") "ABCMeta"
    isExported := !Text.startsWith name "_"
    documentation := docstring d c
    decorators := decorators d c }

/-- An interface: fields first, then methods. -/
def interfaceDecl (d : Document) (c : Cursor) : InterfaceDecl :=
  let name := d.roleText c "name"
  { name := name
    location := c.location
    members :=
      ((properties d c).map fun p =>
        { name := p.name, kind := .property, type := p.type, optional := p.optional }) ++
      (methods d c).map fun m =>
        { name := m.name, kind := .method, type := m.returnType, location := some m.location }
    bases := (bases d c).filter fun b => !protocolBases.contains b
    isExported := !Text.startsWith name "_"
    documentation := docstring d c }

/-! ## Declarations of a file -/

/-- The functions of a file. -/
def functions (d : Document) : List FunctionDecl :=
  (d.nodesOf ["function_definition"]).map (function d)

/-- The classes of a file that are no interfaces. -/
def classes (d : Document) : List ClassDecl :=
  ((d.nodesOf vocabulary.classes).filter fun c => !isInterface d c).map (classDecl d)

/-- The interfaces of a file. -/
def interfaces (d : Document) : List InterfaceDecl :=
  ((d.nodesOf vocabulary.classes).filter (isInterface d)).map (interfaceDecl d)

/-- The module that a plain import brings in. -/
def plainImport (d : Document) (location : Location) (c : Cursor) : ImportDecl :=
  let (source, aliasName) :=
    if c.kind == "aliased_import" then (d.roleText c "name", some (d.roleText c "alias"))
    else (d.text c, none)
  { source := source, location := location
    names := [{ name := Text.lastPiece '.' source, aliasName := aliasName, isNamespace := true }] }

/-- One name of an import from a module. -/
def importName (d : Document) (c : Cursor) : ImportName :=
  if c.kind == "aliased_import" then
    { name := d.roleText c "name", aliasName := d.roleText? c "alias" }
  else { name := d.text c }

/-- The imports of one statement. -/
def importsOf (d : Document) (c : Cursor) : List ImportDecl :=
  if c.kind == "import_statement" then c.named.map (plainImport d c.location)
  else
    let source :=
      if c.kind == "future_import_statement" then "__future__" else d.roleText c "module_name"
    let star : List ImportName :=
      if c.named.any (·.kind == "wildcard_import") then [{ name := "*", isNamespace := true }]
      else []
    [{ source := source, names := (c.inRole "name").map (importName d) ++ star
       location := c.location }]

/-- The imports of a file. -/
def imports (d : Document) : List ImportDecl :=
  (d.nodesOf vocabulary.imports).flatMap (importsOf d)

/-- What a top-level statement exports: nothing, a name, or the list of all exported names. -/
inductive ExportStep where
  | nothing
  | name (n : String)
  | all (names : List String)

/-- What a top-level statement exports. -/
def exportStep (d : Document) (statement : Cursor) : ExportStep :=
  match undecorated? statement with
  | none => .nothing
  | some t =>
    if isDefinition t.node then .name (d.roleText t "name")
    else
      match t.kind, t.named.head? with
      | "expression_statement", some assign =>
        match if assign.kind == "assignment" then assign.role? "left" else none with
        | some left =>
          if left.kind != "identifier" then .nothing
          else if d.text left == "__all__" then
            match assign.role? "right" with
            | some right =>
              if right.kind == "list" || right.kind == "tuple" then
                .all ((right.named.filter (·.kind == "string")).map fun item =>
                  (Http.literal? (d.text item)).getD "")
              else .nothing
            | none => .nothing
          else .name (d.text left)
        | none => .nothing
      | _, _ => .nothing

/-- The exports of a file: the names listed in `__all__`, else those without an underscore. -/
def exports (d : Document) : List ExportDecl :=
  let steps := (Cursor.root d.root).kept.map fun c => (exportStep d c, c.location)
  let named : List ExportDecl := steps.filterMap fun (step, location) =>
    match step with
    | .name n => some { name := n, location := location }
    | _ => none
  let listed := steps.filterMap fun (step, _) =>
    match step with
    | .all names => some names
    | _ => none
  match listed.getLast? with
  | some names => named.filter fun e => names.contains e.name
  | none => named.filter fun e => !Text.startsWith e.name "_"

/-! ## Routes -/

/-- What a route decorator declares. -/
structure RouteMark where
  methods : List String
  path : String
  responseModel : Option String
  deprecated : Bool
  auth : Bool
  framework : String

/-- The decorator names that declare a route. -/
def routeVerbs : List String :=
  Http.lowerMethods ++ ["route", "api_route"]

/-- The keyword arguments of a call; of a repeated keyword the last one counts. -/
def keywords (d : Document) (args : List Cursor) : List (String × Option Cursor) :=
  ((args.filter (·.kind == "keyword_argument")).map fun a =>
    (d.roleText a "name", a.role? "value")).reverse

/-- The value of a keyword argument that has one. -/
def keyword? (kws : List (String × Option Cursor)) (key : String) : Option Cursor :=
  (kws.lookup key).join

/-- The string literals in a list of nodes. -/
def literals (d : Document) (cs : List Cursor) : List String :=
  (cs.filter (·.kind == "string")).map fun c => (Http.literal? (d.text c)).getD ""

/-- What a decorator declares, if it is a route. -/
def routeMark? (d : Document) (decorator : Cursor) : Option RouteMark := do
  let call ← decorator.named.head?
  guard (call.kind == "call")
  let function ← call.role? "function"
  guard (function.kind == "attribute")
  let receiver := Text.lastPiece '.' (d.roleText function "object")
  let verb := d.roleText function "attribute"
  guard (routeVerbs.contains verb && Http.isServerObject receiver)
  let args := ((call.role? "arguments").map Cursor.named).getD []
  let kws := keywords d args
  let positional := (args.filter (·.kind == "string")).findSome? fun a => Http.literal? (d.text a)
  let path ←
    match positional with
    | some p => some p
    | none =>
      if (kws.lookup "path").isSome then Http.literal? (d.textOf (keyword? kws "path")) else none
  let listed :=
    ((keyword? kws "methods").map fun m => (literals d m.named).map Text.upper).getD []
  return {
    methods :=
      if verb == "route" || verb == "api_route" then (if listed.isEmpty then ["GET"] else listed)
      else [Text.upper verb]
    path := Http.normalizeRoute path
    responseModel := nonEmpty (d.textOf (keyword? kws "response_model"))
    deprecated := d.textOf (keyword? kws "deprecated") == "True"
    auth := Http.hasAuthGuard (d.textOf (keyword? kws "dependencies"))
    framework := if verb == "route" then "flask" else "fastapi" }

/-- Recognises an injected dependency and gives its argument. -/
def dependency (cs : List Char) : Option (Nat × List Char) :=
  ["Depends(", "Security("].findSome? fun opening =>
    match Chars.after? opening.toList cs with
    | some rest =>
      let inside := rest.takeWhile (· != ')')
      if (rest.drop inside.length).isEmpty then none
      else some (opening.length + inside.length + 1, inside)
    | none => none

/-- Whether some injected dependency checks credentials. -/
def injectsAuth (text : String) : Bool :=
  (Chars.findAll dependency text.toList).any fun m => Http.hasAuthGuard (String.ofList m.value)

/-- The type of a request body: the first parameter without a default whose type is a class. -/
def requestType (d : Document) (definition : Cursor) : Option String :=
  (parameters d (definition.role? "parameters") false).findSome? fun p =>
    match p.type with
    | some type =>
      let head := Text.firstPiece '[' type
      let known := ["Request", "Response", "Optional", "BackgroundTasks"].contains head
      if p.default.isNone && (head.toList.head?.map Chars.isUpperCase).getD false && !known then
        some type
      else none
    | none => none

/-- The routes that a decorated definition serves. -/
def endpointsOf (d : Document) (c : Cursor) : List EndpointDecl :=
  match (c.role? "definition").filter (·.kind == "function_definition") with
  | none => []
  | some definition =>
    let decorators := c.named.filter (·.kind == "decorator")
    let names := decorators.map (decoratorText d)
    let guarded :=
      injectsAuth (d.roleText definition "parameters") || names.any Http.isAuthDecorator
    let retired := names.any fun n => Text.endsWith (Text.firstPiece '(' n) "deprecated"
    (decorators.filterMap (routeMark? d)).flatMap fun route =>
      route.methods.map fun method =>
        { method := method
          path := route.path
          location := definition.location
          handler := some (d.roleText definition "name")
          framework := route.framework
          requiresAuth := route.auth || guarded
          deprecated := route.deprecated || retired
          responseType := route.responseModel.or (d.roleText? definition "return_type")
          requestType := requestType d definition }

/-- The routes of a file. -/
def endpoints (d : Document) : List EndpointDecl :=
  (d.nodesOf ["decorated_definition"]).flatMap (endpointsOf d)

/-! ## Requests -/

/-- The annotation of a variable that a call's result is assigned to, at most four nodes up. -/
def annotatedTarget (d : Document) (c : Cursor) : Option String :=
  let passed := ["attribute", "call", "await", "parenthesized_expression"]
  match (c.ancestors.take 4).dropWhile fun a => passed.contains a.kind with
  | target :: _ => if target.kind == "assignment" then d.roleText? target "type" else none
  | [] => none

/-- The request that a call issues. -/
def apiCall? (d : Document) (c : Cursor) : Option ApiCall := do
  let function ← c.role? "function"
  guard (function.kind == "attribute")
  let receiver := d.roleText function "object"
  let verb := d.roleText function "attribute"
  guard (Http.isClientObject (Text.lastPiece '.' receiver))
  let args := ((c.role? "arguments").map Cursor.named).getD []
  let positional := args.filter (·.kind != "keyword_argument")
  let kws := keywords d args
  let (method, target) ←
    if Http.isMethod (Text.upper verb) then
      some (Text.upper verb,
        match positional.head? with
        | some first => some first
        | none => keyword? kws "url")
    else if verb == "request" && 2 ≤ positional.length then
      some (Text.upper ((Http.literal? (d.textOf positional.head?)).getD ""), positional[1]?)
    else none
  let url ← target
  guard (url.kind == "string" && Http.isMethod method)
  let raw ← Http.literal? (d.text url)
  guard (Http.looksLikeUrl raw)
  let scope := enclosing? c
  return {
    method := method
    url := Http.normalizeUrl .braces raw
    location := c.location
    client := receiver
    hasAuth := (kws.lookup "auth").isSome ||
      ["headers", "cookies"].any fun key => Http.hasAuthMarker (d.textOf (keyword? kws key))
    expectedType := annotatedTarget d c
    enclosing := (scope.filter (·.kind == "function_definition")).map fun s => d.roleText s "name" }

/-- The requests of a file. -/
def apiCalls (d : Document) : List ApiCall :=
  (d.nodesOf ["call"]).filterMap (apiCall? d)

end Python
end Adapter
end CrossAudit
