import CrossAudit.Entity.Basic
import CrossAudit.Json.Access
import CrossAudit.Json.Number
import CrossAudit.Reference.Basic

/-!
# Reading entities and references from documents

The inverse of `toJson` for hand-written documents: every field that is missing takes its default,
and members that are not known are ignored.
-/

namespace CrossAudit

namespace Parameter

/-- Reads a parameter. -/
def ofJson (j : Json) : Parameter :=
  { name := j.textAt "name" "", type := j.textAt? "type", optional := j.boolAt "optional" false
    default := j.textAt? "default" }

end Parameter

namespace Property

/-- Reads a field. -/
def ofJson (j : Json) : Property :=
  { name := j.textAt "name" "", type := j.textAt? "type"
    visibility := j.textAt "visibility" "public", isStatic := j.boolAt "is_static" false
    isReadonly := j.boolAt "is_readonly" false, optional := j.boolAt "optional" false }

end Property

namespace TypeSchema

mutual

/-- Reads a shape. -/
def ofJson : Json → TypeSchema
  | .obj ms =>
    let j := Json.obj ms
    .mk (j.textAt "type" "") (propertiesIn ms) (itemIn ms) (j.textsAt "required") (j.textAt? "ref")
  | _ => .mk "" [] none [] none

/-- The named parts among the members of a shape. -/
def propertiesIn : List (String × Json) → List (String × TypeSchema)
  | [] => []
  | (k, v) :: rest => if k == "properties" then partsOf v else propertiesIn rest

/-- The item shape among the members of a shape. -/
def itemIn : List (String × Json) → Option TypeSchema
  | [] => none
  | (k, v) :: rest =>
    if k == "items" then (match v with | .null => none | v => some (ofJson v)) else itemIn rest

/-- The named parts of a document. -/
def partsOf : Json → List (String × TypeSchema)
  | .obj ms => partsIn ms
  | _ => []

/-- The named parts of a list of members. -/
def partsIn : List (String × Json) → List (String × TypeSchema)
  | [] => []
  | (k, v) :: rest => (k, ofJson v) :: partsIn rest

end

end TypeSchema

namespace ApiContract

/-- Reads a contract. -/
def ofJson (j : Json) : ApiContract :=
  { version := j.textAt "version" "1"
    request := (j.objectAt? "request").map TypeSchema.ofJson
    response := (j.objectAt? "response").map TypeSchema.ofJson
    errors := (j.itemsAt "errors").map fun e =>
      { code := e.textAt "code" "", message := e.textAt "message" ""
        httpStatus := e.intAt? "http_status" }
    authentication := (j.objectAt? "authentication").map fun a =>
      { type := a.textAt "type" "bearer", header := a.textAt? "header"
        scopes := a.textsAt "scopes" }
    rateLimit := (j.objectAt? "rate_limit").map fun r =>
      { requests := r.intAt "requests" 0, window := r.textAt "window" ""
        burst := r.intAt? "burst" }
    deprecated := j.boolAt "deprecated" false }

end ApiContract

namespace Entity

/-- Reads an entity; its name defaults to its identifier. -/
def ofJson (j : Json) : Entity :=
  let id := j.textAt "id" ""
  { id := id
    name := j.textAt "name" id
    language := j.textAt "language" "python"
    file := j.textAt "file" "app.py"
    type := j.textAt "type" "function"
    startLine := j.intAt "start_line" 1
    endLine := j.intAt "end_line" 1
    signature := j.textAt? "signature"
    parameters := (j.itemsAt "parameters").map Parameter.ofJson
    returnType := j.textAt? "return_type"
    properties := (j.itemsAt "properties").map Property.ofJson
    visibility := j.textAt "visibility" "public"
    isExported := j.boolAt "is_exported" false
    isAsync := j.boolAt "is_async" false
    className := j.textAt? "class_name"
    calls := j.textsAt "calls"
    calledBy := j.textsAt "called_by"
    bases := j.textsAt "extends"
    implements := j.textsAt "implements"
    apiEndpoint := j.textAt? "api_endpoint"
    apiMethod := j.textAt? "api_method"
    apiContract := (j.objectAt? "api_contract").map ApiContract.ofJson
    documentation := j.textAt? "documentation"
    complexity := j.intAt "complexity" 1
    metadata := j.membersAt "metadata" }

end Entity

namespace Reference

/-- Why a reference cannot be read. -/
inductive ReadError where
  | fault (f : Fault)
  | defect (d : Defect)
  deriving Repr, DecidableEq

/-- The wording of a reading error. -/
def ReadError.message : ReadError → String
  | .fault f => f.message
  | .defect d => d.message

/-- The confidence of a document, unless it has none. -/
def confidenceOf (j : Json) : Except Fault Binary64 :=
  match j.get? "confidence" with
  | some v => v.toNumber
  | none => .ok (.ofRat (9 / 10))

/-- Reads a reference, and checks it. -/
def ofJson (j : Json) : Except ReadError Reference := do
  let confidence ← (confidenceOf j).mapError .fault
  (check
    { sourceId := j.textAt "source_id" ""
      targetId := j.textAt "target_id" ""
      type := j.textAt "type" "calls"
      sourceLanguage := j.textAt "source_language" "python"
      targetLanguage := j.textAt "target_language" "python"
      confidence := confidence
      protocol := j.textAt? "protocol"
      metadata := j.membersAt "metadata" }).mapError .defect

end Reference
end CrossAudit
