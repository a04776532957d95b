import CrossAudit.Contract.Route
import CrossAudit.Entity.Basic
import CrossAudit.Fault
import CrossAudit.Text.Casing

/-!
# Pairing requests with endpoints

Every request that an entity notes is paired with an endpoint whose route matches its path: with
the first that also has its method, else with the first at all, else with none.

The notes on requests are written by analyzers and have no fixed shape, so reading them can fail.
-/

namespace CrossAudit
namespace Contract

/-- A request and the entity that notes it. -/
structure CallSite where
  entity : Entity
  method : String
  url : Json
  line : Json
  column : Json
  hasAuth : Bool
  expectedType : Json
  deriving Inhabited

/-- A member of a note, or what counts in its place when it is missing or does not hold. -/
def noteOr (note : Json) (key : String) (fallback : Json) : Except Fault Json := do
  let v := (← note.member key).getD .null
  return if v.holds then v else fallback

/-- The method of a note, in upper case. -/
def noteMethod (note : Json) : Except Fault String := do
  match ← noteOr note "method" (.str "GET") with
  | .str s => return Text.upper s
  | v => throw (.noAttribute v.shapeName "upper")

/-- Reads a note on a request. -/
def readNote (entity : Entity) (note : Json) : Except Fault CallSite := do
  return {
    entity := entity
    method := ← noteMethod note
    url := ← noteOr note "url" (.str "/")
    line := ← noteOr note "line" (.int entity.startLine)
    column := ← noteOr note "column" (.int 1)
    hasAuth := ((← note.member "has_auth").getD .null).holds
    expectedType := (← note.member "expected_response_type").getD .null }

/-- The requests that an entity notes. -/
def callsOf (entity : Entity) : Except Fault (List CallSite) := do
  let notes ← ((entity.metadata.lookup "api_calls").getD (.arr [])).elements
  notes.mapM (readNote entity)

/-- The requests that entities note, in order. -/
def callSites (entities : List Entity) : Except Fault (List CallSite) := do
  return (← entities.mapM callsOf).flatten

/-- Whether an entity is an endpoint with a route. -/
def isEndpoint (e : Entity) : Bool :=
  e.type == "endpoint" && e.apiEndpoint.getD "" != ""

/-- The endpoints among entities. -/
def endpoints (entities : List Entity) : List Entity :=
  entities.filter isEndpoint

/-- How well a request and an endpoint go together. -/
inductive MatchKind where
  | full
  | pathOnly
  deriving Repr, DecidableEq

/-- The method of an endpoint, in upper case. -/
def endpointMethod (e : Entity) : String :=
  Text.upper (e.apiMethod.getD "")

/-- The endpoints whose route matches a URL.  A URL has to be a text if there is any endpoint. -/
def pathHits (es : List Entity) (url : Json) : Except Fault (List Entity) :=
  match es, url with
  | [], _ => .ok []
  | es, .str u => .ok (es.filter fun e => Route.isMatch (e.apiEndpoint.getD "") u)
  | _, v => .error (.noAttribute v.shapeName "split")

/-- The endpoint that a request is paired with. -/
def choose (method : String) (hits : List Entity) : Option (Entity × MatchKind) :=
  match hits.find? fun e => endpointMethod e == method with
  | some e => some (e, .full)
  | none => hits.head?.map fun e => (e, .pathOnly)

/-- A request with its endpoint, if there is one. -/
abbrev Pairing := CallSite × Option (Entity × MatchKind)

/-- The requests of entities with their endpoints. -/
def pair (entities : List Entity) : Except Fault (List Pairing) := do
  let es := endpoints entities
  (← callSites entities).mapM fun call => do
    return (call, choose call.method (← pathHits es call.url))

end Contract
end CrossAudit
