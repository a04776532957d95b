import CrossAudit.Adapter.Vocabulary
import CrossAudit.Declaration
import CrossAudit.Http.Url
import CrossAudit.Http.Vocabulary
import CrossAudit.Text.Lines

/-!
# TypeScript and JavaScript sources

Declarations, routes and requests of a TypeScript or JavaScript file, read off its syntax tree.
Both grammars share their node kinds; a JavaScript file just has no interfaces.  Documentation is
the block comment right before the statement of a declaration.
-/

namespace CrossAudit
namespace Adapter
namespace EcmaScript

open Syntax

/-- The node kinds of the grammars. -/
def vocabulary : Vocabulary where
  functions :=
    ["function_declaration", "generator_function_declaration", "function_expression", "function",
      "generator_function", "arrow_function", "method_definition"]
  classes := ["class_declaration", "abstract_class_declaration", "class"]
  interfaces := ["interface_declaration"]
  imports := ["import_statement"]
  loops := ["for_statement", "for_in_statement", "while_statement", "do_statement"]
  conditionals := ["if_statement", "ternary_expression", "switch_case"]
  catches := ["catch_clause"]
  booleans := ["binary_expression"]
  operators := ["&&", "||", "??"]

/-- Functions that are values. -/
def functionValues : List String :=
  ["arrow_function", "function_expression", "function", "generator_function"]

/-- Functions that are statements. -/
def declaredFunctions : List String :=
  ["function_declaration", "generator_function_declaration"]

/-- Fields of a class. -/
def fieldKinds : List String :=
  ["public_field_definition", "field_definition"]

/-- String literals, plain and with substitutions. -/
def stringKinds : List String :=
  ["string", "template_string"]

/-! ## Comments and statements -/

/-- Drops the leading star of a comment line, with the blanks before it and one after it. -/
def dropStar (line : List Char) : List Char :=
  match line.dropWhile Text.isBlank with
  | '*' :: c :: rest => if Text.isBlank c then rest else c :: rest
  | ['*'] => []
  | _ => line

/-- The text of a block comment without its frame and the leading star of each line. -/
def cleanComment (text : String) : String :=
  let body := Chars.strip text.toList
  let body :=
    match Chars.after? "/**".toList body with
    | some rest => rest
    | none => (Chars.after? "/*".toList body).getD body
  let body := (Chars.before? "*/".toList body).getD body
  let lines := (Chars.lines body).map fun line => Chars.trimRight Text.isBlank (dropStar line)
  Text.strip (Text.join "\n" (lines.map String.ofList))

/-- The statement that carries the comment and the export of a declaration. -/
def statementOf (c : Cursor) : Cursor :=
  let declared := if c.kind == "variable_declarator" then c.parent?.getD c else c
  match declared.parent? with
  | some p => if p.kind == "export_statement" then p else declared
  | none => declared

/-- Whether a declaration is exported. -/
def isExported (c : Cursor) : Bool :=
  (statementOf c).kind == "export_statement"

/-- The documentation of a declaration. -/
def docComment (d : Document) (c : Cursor) : Option String :=
  match (statementOf c).namedBefore.head? with
  | some sibling =>
    if sibling.kind == "comment" && Text.startsWith (d.text sibling) "/**" then
      some (cleanComment (d.text sibling))
    else none
  | none => none

/-- The name of a node; a function value takes the name of the variable it is assigned to. -/
def nameOf? (d : Document) (c : Cursor) : Option String :=
  match d.nameOf? c with
  | some n => some n
  | none =>
    if functionValues.contains c.kind then
      (c.parent?.filter (·.kind == "variable_declarator")).bind d.nameOf?
    else none

/-- A type annotation without its colon, unless it is empty. -/
def typeText (text : String) : Option String :=
  let cs := Chars.strip text.toList
  let cs :=
    match cs with
    | ':' :: rest => Chars.strip rest
    | _ => cs
  nonEmpty (String.ofList cs)

/-- The type annotation of a child in a role. -/
def roleType (d : Document) (c : Cursor) (role : String) : Option String :=
  typeText (d.roleText c role)

/-! ## Functions -/

/-- One parameter; comments are none. -/
def parameter? (d : Document) (c : Cursor) : Option Parameter :=
  match c.kind with
  | "required_parameter" | "optional_parameter" =>
    some { name := d.roleText c "pattern", type := roleType d c "type"
           optional := c.kind == "optional_parameter" || (c.role? "value").isSome
           default := d.roleText? c "value" }
  | "assignment_pattern" =>
    some { name := d.roleText c "left", optional := true, default := d.roleText? c "right" }
  | "rest_pattern" => some { name := d.text c, optional := true }
  | "comment" => none
  | _ => some { name := d.text c }

/-- The parameters of a function. -/
def parameters (d : Document) (fn : Cursor) : List Parameter :=
  match fn.role? "parameters" with
  | some list => list.named.filterMap (parameter? d)
  | none => ((fn.role? "parameter").map fun p => { name := d.text p }).toList

/-- The name that a call or construction calls. -/
def callName? (d : Document) (c : Cursor) : Option String :=
  match c.role? (if c.kind == "call_expression" then "function" else "constructor") with
  | some t =>
    if t.kind == "identifier" then some (d.text t)
    else if t.kind == "member_expression" then some (d.roleText t "property")
    else none
  | none => none

/-- Whether the calls inside a node belong to someone else. -/
def ownsCalls (n : Node) : Bool :=
  declaredFunctions.contains n.kind || vocabulary.classes.contains n.kind

/-- The names called in a body, in order of first use. -/
def callsIn (d : Document) (body : Option Cursor) : List String :=
  match body with
  | none => []
  | some b =>
    let below := b.named.flatMap (Cursor.scan Node.isNamed (fun n => !ownsCalls n) false)
    let calls := (b :: below).filter fun c =>
      c.kind == "call_expression" || c.kind == "new_expression"
    (calls.filterMap (callName? d)).foldl addNew []

/-- The decorators of a member or class: those right before it, then its own. -/
def decorators (d : Document) (c : Cursor) : List String :=
  let strip (c : Cursor) : String := Text.dropLeading '@' (d.text c)
  let before := c.namedBefore.takeWhile fun s => s.kind == "decorator" || s.kind == "comment"
  ((before.filter (·.kind == "decorator")).reverse ++
    c.named.filter (·.kind == "decorator")).map strip

/-- The visibility of a member. -/
def accessibility (d : Document) (c : Cursor) : String :=
  match c.named.find? (·.kind == "accessibility_modifier") with
  | some modifier => d.text modifier
  | none =>
    match (c.role? "name").or (c.role? "property") with
    | some name => if name.kind == "private_property_identifier" then "private" else "public"
    | none => "public"

/-- The class around a member; a function statement in between hides it. -/
def enclosingClass? (c : Cursor) : Option Cursor :=
  (c.ancestors.find? fun a =>
    vocabulary.classes.contains a.kind || declaredFunctions.contains a.kind).filter
      fun a => vocabulary.classes.contains a.kind

/-- A function: its declaration, its name, the function itself and the node whose decisions
count. -/
def function (d : Document) (owner : Cursor) (name : String) (fn measured : Cursor) :
    FunctionDecl :=
  let isMember := owner.kind == "method_definition" || owner.kind == "abstract_method_signature"
  let cls := if isMember then enclosingClass? owner else none
  { name := name
    location := owner.location
    parameters := parameters d fn
    returnType := roleType d fn "return_type"
    isAsync := fn.hasToken "async"
    isExported :=
      match cls with
      | some _ => accessibility d owner == "public"
      | none => isExported owner
    isMethod := cls.isSome
    className := cls.bind fun c => d.roleText? c "name"
    documentation := docComment d owner
    complexity := vocabulary.complexity measured
    decorators := if cls.isSome then decorators d owner else []
    calls := callsIn d (fn.role? "body") }

/-- The function that a node declares: a statement, a method, or a variable with a function
value. -/
def function? (d : Document) (c : Cursor) : Option FunctionDecl :=
  if declaredFunctions.contains c.kind || c.kind == "method_definition" then
    some (function d c (d.roleText c "name") c c)
  else if c.kind == "variable_declarator" then
    match c.role? "value" with
    | some value =>
      if functionValues.contains value.kind then
        some (function d c (d.roleText c "name") value (if value.node.isKept then value else c))
      else none
    | none => none
  else none

/-- The functions of a file. -/
def functions (d : Document) : List FunctionDecl :=
  d.walk.filterMap (function? d)

/-! ## Classes -/

/-- The clauses of a class that name its bases. -/
def isHeritageClause (c : Cursor) : Bool :=
  c.kind == "extends_clause" || c.kind == "implements_clause"

/-- The name of a type in a clause, without type arguments. -/
def clauseItem (d : Document) (c : Cursor) : String :=
  if c.kind == "generic_type" then d.text ((c.role? "name").getD c) else d.text c

/-- The names in a clause. -/
def clauseNames (d : Document) (c : Cursor) : List String :=
  (c.named.filter fun i => i.kind != "type_arguments" && i.kind != "comment").map (clauseItem d)

/-- The bases of a class and the interfaces it implements. -/
def heritage (d : Document) (c : Cursor) : List String × List String :=
  let direct := c.named.flatMap fun child =>
    if child.kind == "class_heritage" && !child.named.any isHeritageClause then
      (child.named.filter (·.kind != "comment")).map d.text
    else []
  let clauses := c.named.flatMap fun child =>
    if child.kind == "class_heritage" then child.named.filter isHeritageClause
    else if isHeritageClause child then [child]
    else []
  let (ext, impl) := clauses.partition (·.kind == "extends_clause")
  (direct ++ ext.flatMap (clauseNames d), impl.flatMap (clauseNames d))

/-- The fields that the parameters of a constructor declare. -/
def parameterProperties (d : Document) (ctor : Cursor) : List Property :=
  ((ctor.role? "parameters").map Cursor.named).getD [] |>.filterMap fun p =>
    let modifier := p.named.find? (·.kind == "accessibility_modifier")
    let readonly := p.hasToken "readonly"
    if modifier.isSome || readonly then
      some { name := d.roleText p "pattern", type := roleType d p "type"
             visibility := (modifier.map d.text).getD "public", isReadonly := readonly
             optional := p.kind == "optional_parameter" }
    else none

/-- The fields that a member of a class declares. -/
def memberProperties (d : Document) (c : Cursor) : List Property :=
  if c.kind == "method_definition" || c.kind == "abstract_method_signature" then
    if d.roleText c "name" == "constructor" then parameterProperties d c else []
  else if fieldKinds.contains c.kind then
    [{ name := d.textOf ((c.role? "name").or (c.role? "property"))
       type := roleType d c "type"
       visibility := accessibility d c
       isStatic := c.hasToken "static"
       isReadonly := c.hasToken "readonly"
       optional := c.hasToken "?" }]
  else []

/-- A class, if it has a name of its own or from its variable. -/
def classDecl? (d : Document) (c : Cursor) : Option ClassDecl := do
  let borrowed :=
    (c.parent?.filter (·.kind == "variable_declarator")).bind (·.role? "name")
  let name ← (c.role? "name").or borrowed
  let members :=
    match c.role? "body" with
    | some body => if body.node.isKept then body.kept else []
    | none => []
  let (bases, implements) := heritage d c
  return {
    name := d.text name
    location := c.location
    methods := members.filterMap fun m =>
      if m.kind == "method_definition" || m.kind == "abstract_method_signature" then
        some (function d m (d.roleText m "name") m m)
      else none
    properties := members.flatMap (memberProperties d)
    bases := bases
    implements := implements
    isAbstract := c.kind == "abstract_class_declaration"
    isExported := isExported c
    documentation := docComment d c
    decorators := decorators d c }

/-- The classes of a file. -/
def classes (d : Document) : List ClassDecl :=
  (d.nodesOf vocabulary.classes).filterMap (classDecl? d)

/-! ## Interfaces -/

/-- A member of an interface. -/
def interfaceMember? (d : Document) (c : Cursor) : Option InterfaceMember :=
  match c.kind with
  | "property_signature" =>
    some { name := d.roleText c "name", kind := .property, type := roleType d c "type"
           optional := c.hasToken "?", location := some c.location }
  | "method_signature" =>
    some { name := d.roleText c "name", kind := .method, type := roleType d c "return_type"
           optional := c.hasToken "?", location := some c.location }
  | _ => none

/-- The body of an interface, or of a name for an object type; an interface may lack one. -/
def interfaceBody? (c : Cursor) : Option (Option Cursor) :=
  if c.kind == "interface_declaration" then some (c.role? "body")
  else if c.kind == "type_alias_declaration" then
    ((c.role? "value").filter (·.kind == "object_type")).map some
  else none

/-- The interface that a node declares. -/
def interfaceDecl? (d : Document) (c : Cursor) : Option InterfaceDecl :=
  (interfaceBody? c).map fun body =>
    { name := d.roleText c "name"
      location := c.location
      members := ((body.map Cursor.named).getD []).filterMap (interfaceMember? d)
      bases := (c.named.filter (·.kind == "extends_type_clause")).flatMap fun clause =>
        clause.named.map d.text
      isExported := isExported c
      documentation := docComment d c }

/-- The interfaces of a file. -/
def interfaces (d : Document) : List InterfaceDecl :=
  d.walk.filterMap (interfaceDecl? d)

/-! ## Imports and exports -/

/-- The names that a part of an import clause brings in. -/
def importNames (d : Document) (c : Cursor) : List ImportName :=
  match c.kind with
  | "identifier" => [{ name := d.text c, isDefault := true }]
  | "namespace_import" =>
    [{ name := "*", aliasName := nonEmpty (d.textOf c.named.head?), isNamespace := true }]
  | "named_imports" =>
    (c.named.filter (·.kind == "import_specifier")).map fun spec =>
      { name := d.roleText spec "name", aliasName := d.roleText? spec "alias" }
  | _ => []

/-- The import that a node is: a statement, or a call of `require` on a string. -/
def import? (d : Document) (c : Cursor) : Option ImportDecl :=
  if c.kind == "import_statement" then
    some { source := (Http.literal? (d.roleText c "source")).getD ""
           names := ((c.named.filter (·.kind == "import_clause")).flatMap Cursor.named).flatMap
             (importNames d)
           location := c.location }
  else if c.kind == "call_expression" then
    match c.role? "function", (c.role? "arguments").bind fun a => a.named.head? with
    | some function, some first =>
      if d.text function == "require" && first.kind == "string" then
        some { source := (Http.literal? (d.text first)).getD ""
               names := ((c.parent?.filter (·.kind == "variable_declarator")).map fun p =>
                 { name := d.roleText p "name", isDefault := true }).toList
               location := c.location }
      else none
    | _, _ => none
  else none

/-- The imports of a file. -/
def imports (d : Document) : List ImportDecl :=
  d.walk.filterMap (import? d)

/-- The names that an export statement exports. -/
def exportsOf (d : Document) (c : Cursor) : List ExportDecl :=
  let isDefault := c.hasToken "default"
  let source := (c.role? "source").bind fun s => Http.literal? (d.text s)
  match c.role? "declaration" with
  | some declaration =>
    if declaration.kind == "lexical_declaration" || declaration.kind == "variable_declaration" then
      (declaration.named.filter (·.kind == "variable_declarator")).map fun v =>
        { name := d.roleText v "name", location := c.location }
    else
      [{ name := (d.roleText? declaration "name").getD "default", location := c.location
         isDefault := isDefault }]
  | none =>
    match c.named.find? (·.kind == "export_clause") with
    | some clause =>
      (clause.named.filter (·.kind == "export_specifier")).map fun spec =>
        let name := d.textOf ((spec.role? "alias").or (spec.role? "name"))
        { name := name, location := c.location, isDefault := name == "default", source := source }
    | none =>
      if isDefault then
        let name := ((c.role? "value").filter (·.kind == "identifier")).map d.text
        [{ name := name.getD "default", location := c.location, isDefault := true }]
      else (source.map fun s => { name := "*", location := c.location, source := some s }).toList

/-- The exports of a file. -/
def exports (d : Document) : List ExportDecl :=
  (d.nodesOf ["export_statement"]).flatMap (exportsOf d)

/-! ## Requests -/

/-- Why a URL could not be put together: a concatenation lacks one of its sides. -/
inductive UrlFault where
  | operandMissing
  deriving Repr, DecidableEq

/-- The wording of the fault. -/
def UrlFault.message : UrlFault → String
  | .operandMissing => "'NoneType' object has no attribute 'type'"

mutual

/-- The text of a URL expression: strings and their concatenations; anything else is an
interpolation. -/
def urlParts (d : Document) (above : List (Node × Nat)) : Node → Except UrlFault String
  | .mk info kids =>
    let here : Cursor := ⟨.mk info kids, above⟩
    if stringKinds.contains info.kind then .ok ((Http.literal? (d.text here)).getD "")
    else if info.kind == "binary_expression" && d.roleText here "operator" == "+" then do
      let left ← urlOperand d (.mk info kids) above "left" 0 kids
      let right ← urlOperand d (.mk info kids) above "right" 0 kids
      return left ++ right
    else if info.kind == "parenthesized_expression" && !here.named.isEmpty then
      urlInside d (.mk info kids) above 0 kids
    else .ok "$\x7bx\x7d"

/-- The text of the first child in a role. -/
def urlOperand (d : Document) (parent : Node) (above : List (Node × Nat)) (role : String) :
    Nat → List Node → Except UrlFault String
  | _, [] => .error .operandMissing
  | place, child :: rest =>
    if child.info.role == some role then urlParts d ((parent, place) :: above) child
    else urlOperand d parent above role (place + 1) rest

/-- The text of the first child that is more than a token. -/
def urlInside (d : Document) (parent : Node) (above : List (Node × Nat)) :
    Nat → List Node → Except UrlFault String
  | _, [] => .error .operandMissing
  | place, child :: rest =>
    if child.isNamed then urlParts d ((parent, place) :: above) child
    else urlInside d parent above (place + 1) rest

end

/-- The URL that an expression gives, if it looks like one. -/
def urlOf (d : Document) (c : Cursor) : Except UrlFault (Option String) := do
  let url ← urlParts d c.above c.node
  return if Http.looksLikeUrl url then some url else none

/-- The pairs of an object literal; of a repeated key the last one counts. -/
def objectPairs (d : Document) (c : Option Cursor) : List (String × Option Cursor) :=
  match c with
  | some object =>
    if object.kind == "object" then
      ((object.named.filter (·.kind == "pair")).map fun pair =>
        let key := d.roleText pair "key"
        let plain := (Http.literal? key).getD ""
        (if plain == "" then key else plain, pair.role? "value")).reverse
    else []
  | none => []

/-- The value of a key that has one. -/
def pair? (pairs : List (String × Option Cursor)) (key : String) : Option Cursor :=
  (pairs.lookup key).join

/-- The name of the function that a node lies in. -/
def enclosingName? (d : Document) (c : Cursor) : Option String :=
  (c.ancestors.findSome? fun a =>
    if declaredFunctions.contains a.kind || a.kind == "method_definition" then
      some (d.roleText? a "name")
    else if functionValues.contains a.kind then
      (a.parent?.filter (·.kind == "variable_declarator")).map fun p => d.roleText? p "name"
    else none).join

/-- The type that the caller expects: a type argument, the annotation of a variable, or a cast,
at most five nodes up. -/
def expectedType (d : Document) (c : Cursor) : Option String :=
  match (c.role? "type_arguments").bind fun a => a.named.head? with
  | some argument => some (d.text argument)
  | none =>
    let passed :=
      ["await_expression", "member_expression", "parenthesized_expression", "non_null_expression"]
    match (c.ancestors.take 5).dropWhile fun a => passed.contains a.kind with
    | target :: _ =>
      if target.kind == "variable_declarator" then roleType d target "type"
      else if target.kind == "as_expression" || target.kind == "satisfies_expression" then
        if 1 < target.named.length then target.named.getLast?.map d.text else none
      else none
    | [] => none

/-- A request before its URL is read. -/
structure RequestMark where
  method : Option String
  target : Option Cursor
  options : List Cursor
  client : String

/-- The method that the options of a request name; without one it is `GET`. -/
def methodIn (d : Document) (pairs : List (String × Option Cursor)) : Option String :=
  match pair? pairs "method" with
  | some m => Http.literal? (d.text m)
  | none => some "GET"

/-- A request whose method and URL stand in an object. -/
def objectRequest (d : Document) (first : Cursor) (client : String) : RequestMark :=
  let pairs := objectPairs d (some first)
  ⟨methodIn d pairs, pair? pairs "url", [first], client⟩

/-- The request that a call of a function on some arguments issues. -/
def requestMark? (d : Document) (function first : Cursor) (rest : List Cursor) :
    Option RequestMark :=
  let name := d.text function
  if ["fetch", "window.fetch", "globalThis.fetch"].contains name then
    let method := ((pair? (objectPairs d rest.head?) "method").bind fun m =>
      (Http.literal? (d.text m)).bind nonEmpty).getD "GET"
    some ⟨some method, some first, rest, "fetch"⟩
  else if function.kind == "member_expression" then
    let receiver := d.roleText function "object"
    let verb := d.roleText function "property"
    if !Http.isClientObject (Text.lastPiece '.' receiver) then none
    else if Http.isMethod (Text.upper verb) then
      some ⟨some (Text.upper verb), some first, rest, receiver⟩
    else if verb == "request" then some (objectRequest d first receiver)
    else none
  else if function.kind == "identifier" && Http.isClientObject name && first.kind == "object" then
    some (objectRequest d first name)
  else none

/-- The arguments of a call, without comments. -/
def arguments (c : Cursor) : List Cursor :=
  ((c.role? "arguments").map Cursor.named).getD [] |>.filter (·.kind != "comment")

/-- The function that a call calls; an await around it is looked through. -/
def calledFunction? (c : Cursor) : Option Cursor :=
  (c.role? "function").map fun f =>
    if f.kind == "await_expression" then f.named.head?.getD f else f

/-- The request that a call issues. -/
def apiCall? (d : Document) (c : Cursor) : Except UrlFault (Option ApiCall) := do
  match calledFunction? c, arguments c with
  | some function, first :: rest =>
    match requestMark? d function first rest with
    | some mark =>
      let method := Text.upper (mark.method.getD "")
      match mark.target with
      | some target =>
        if !Http.isMethod method then return none
        match ← urlOf d target with
        | some url =>
          return some {
            method := method
            url := Http.normalizeUrl .dollar url
            location := c.location
            client := mark.client
            hasAuth := mark.options.any fun o => Http.hasAuthMarker (d.text o)
            expectedType := expectedType d c
            enclosing := enclosingName? d c }
        | none => return none
      | none => return none
    | none => return none
  | _, _ => return none

/-- The requests of a file. -/
def apiCalls (d : Document) : Except UrlFault (List ApiCall) := do
  let found ← (d.nodesOf ["call_expression"]).mapM (apiCall? d)
  return found.filterMap id

/-! ## Routes -/

/-- The method names that declare a route. -/
def routeVerbs : List String :=
  Http.lowerMethods ++ ["all"]

/-- The type of the response that a handler's parameter declares. -/
def handlerResponse (d : Document) (handler : Cursor) : Option String :=
  if functionValues.contains handler.kind then
    (parameters d handler).findSome? fun p =>
      p.type.bind fun type =>
        ((Chars.after? "Response<".toList type.toList).bind (Chars.before? [ '>' ])).map
          String.ofList
  else none

/-- The route that a call declares. -/
def endpoint? (d : Document) (c : Cursor) : Option EndpointDecl := do
  let function ← c.role? "function"
  guard (function.kind == "member_expression")
  let verb := d.roleText function "property"
  guard (routeVerbs.contains verb)
  guard (Http.isServerObject (Text.lastPiece '.' (d.roleText function "object")))
  let args := arguments c
  let first ← args.head?
  let handler ← args.tail.getLast?
  guard (stringKinds.contains first.kind)
  let path ← Http.literal? (d.text first)
  guard (Text.startsWith path "/")
  let doc := (docComment d (c.parent?.getD c)).getD ""
  return {
    method := if verb == "all" then "GET" else Text.upper verb
    path := path
    location := c.location
    handler :=
      if handler.kind == "identifier" || handler.kind == "member_expression" then
        some (d.text handler)
      else none
    framework := "express"
    requiresAuth := args.tail.dropLast.any fun m => Http.hasAuthGuard (d.text m)
    deprecated := Text.contains doc "@deprecated"
    responseType := handlerResponse d handler }

/-- The routes of a file. -/
def endpoints (d : Document) : List EndpointDecl :=
  (d.nodesOf ["call_expression"]).filterMap (endpoint? d)

end EcmaScript
end Adapter
end CrossAudit
