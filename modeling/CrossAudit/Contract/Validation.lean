import CrossAudit.Contract.Pairing
import CrossAudit.Finding
import CrossAudit.Http.TypeShape
import CrossAudit.Json.Display

/-!
# Validation of API contracts

Each request is held against the endpoint it is paired with: its method, the shape of the response
it expects, whether the endpoint is deprecated, and whether it lacks credentials that the endpoint
asks for.  The summary lists the endpoints with their callers.
-/

namespace CrossAudit
namespace Contract

/-! ## Endpoints -/

/-- The coarse kind of an endpoint's response. -/
def responseKind (e : Entity) : Option String :=
  match e.apiContract.bind (·.response) with
  | some schema => some schema.type
  | none => Http.typeShape? e.returnType

/-- Whether an endpoint asks for credentials. -/
def requiresAuth (e : Entity) : Bool :=
  (e.apiContract.bind (·.authentication)).isSome

/-- Whether an endpoint is deprecated. -/
def isDeprecated (e : Entity) : Bool :=
  (e.apiContract.map (·.deprecated)).getD false

/-! ## Findings -/

/-- A finding on a request. -/
def finding (call : CallSite) (endpoint : Option Entity) (rule severity message : String)
    (fix : String) (details : List (String × Json)) : Finding :=
  let add (own : String) (other : Option String) : List String :=
    own :: (other.filter (· != own)).toList
  { file := call.entity.file
    line := call.line
    column := call.column
    severity := severity
    message := message
    rule := rule
    analyzer := "api-contract"
    fix := some fix
    details := details
    link := some
      { crossType := rule
        relatedFiles := add call.entity.file (endpoint.map (·.file))
        relatedLanguages := add call.entity.language (endpoint.map (·.language)) } }

/-- The finding on a request without an endpoint. -/
def missingEndpoint (call : CallSite) : Finding :=
  finding call none "missing-endpoint" "warning"
    ("API call to " ++ call.method ++ " " ++ call.url.display ++ " has no matching endpoint")
    "Ensure the endpoint exists or update the API call" []

/-- The finding on a request whose endpoint has another method. -/
def methodMismatch (call : CallSite) (e : Entity) : Finding :=
  let expected := endpointMethod e
  let route := e.apiEndpoint.getD ""
  finding call (some e) "method-mismatch" "critical"
    s!"HTTP method mismatch: call uses {call.method}, endpoint {route} expects {expected}"
    ("Change the API call method to " ++ expected)
    [("expectedMethod", .str expected), ("actualMethod", .str call.method)]

/-- The shape of response that a request expects; a type that is given has to be a text. -/
def expectedKind (v : Json) : Except Fault (Option String) :=
  match v with
  | .str s => .ok (Http.typeShape s)
  | v => if v.holds then .error (.noAttribute v.shapeName "strip") else .ok none

/-- The finding on a response of another shape than the request expects. -/
def typeMismatch (call : CallSite) (e : Entity) (provided expected : Option String) :
    List Finding :=
  match provided, expected with
  | some p, some x =>
    if p == "" || p == x then []
    else
      [finding call (some e) "type-mismatch" "critical"
        s!"Type mismatch: endpoint returns {p}, call expects {x}"
        s!"Update the API call to handle {p} response instead of {x}"
        [("expectedType", .str p), ("actualType", .str x)]]
  | _, _ => []

/-- The finding on a request to a deprecated endpoint. -/
def deprecation (call : CallSite) (e : Entity) : List Finding :=
  if isDeprecated e then
    [finding call (some e) "deprecated-endpoint" "warning"
      ("Using deprecated API endpoint: " ++ e.name) "Update to use the current API version" []]
  else []

/-- The finding on a request without the credentials that the endpoint asks for. -/
def missingAuth (call : CallSite) (e : Entity) : List Finding :=
  match e.apiContract.bind (·.authentication) with
  | some auth =>
    if call.hasAuth then []
    else
      [finding call (some e) "auth-mismatch" "critical"
        ("API call missing required authentication for endpoint " ++ e.name)
        ("Add " ++ auth.type ++ " authentication to the API call") []]
  | none => []

/-- The findings on a request and its endpoint. -/
def check (p : Pairing) : Except Fault (List Finding) := do
  match p with
  | (call, none) => return [missingEndpoint call]
  | (call, some (e, .pathOnly)) => return [methodMismatch call e]
  | (call, some (e, .full)) =>
    let expected ← expectedKind call.expectedType
    return typeMismatch call e (responseKind e) expected ++ deprecation call e ++ missingAuth call e

/-- The findings on the requests of entities. -/
def validate (entities : List Entity) : Except Fault (List Finding) := do
  return (← (← pair entities).mapM check).flatten

/-! ## Summary -/

/-- The use of one endpoint. -/
structure Usage where
  endpoint : Entity
  callers : List String := []
  mismatched : Nat := 0
  deriving Inhabited

/-- The use of an endpoint as a document. -/
def Usage.toJson (u : Usage) : Json :=
  let e := u.endpoint
  .obj [("endpoint", .ofText? e.apiEndpoint), ("method", .ofText? e.apiMethod),
    ("language", .str e.language), ("file", .str e.file), ("line", .int e.startLine),
    ("response_type", .ofText? (responseKind e)), ("requires_auth", .bool (requiresAuth e)),
    ("deprecated", .bool (isDeprecated e)), ("callers", .ofTexts u.callers),
    ("mismatched_callers", .ofNat u.mismatched)]

/-- Adds a caller to the use of its endpoint. -/
def addCaller (usage : List (String × Usage)) (p : Pairing) : List (String × Usage) :=
  match p with
  | (call, some (e, kind)) =>
    Assoc.update e.id { endpoint := e }
      (fun u =>
        { u with
          callers := u.callers ++ [call.entity.file ++ ":" ++ call.line.display]
          mismatched := u.mismatched + if kind == .full then 0 else 1 })
      usage
  | (_, none) => usage

/-- The endpoints among entities, each with its callers. -/
def summarize (entities : List Entity) : Except Fault (List Usage) := do
  let listed : List (String × Usage) :=
    Assoc.ofPairs ((endpoints entities).map fun e => (e.id, { endpoint := e }))
  return ((← pair entities).foldl addCaller listed).map (·.2)

end Contract
end CrossAudit
