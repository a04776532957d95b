import CrossAudit.Json.Basic
import CrossAudit.Text.Decimal

/-!
# References between entities

A reference joins two entities by their names.  Its kind and protocol come from fixed lists, and
its confidence is a number from zero to one; `Reference.check` says which of these fails first.
-/

namespace CrossAudit

/-- A reference from one entity to another. -/
structure Reference where
  sourceId : String
  targetId : String
  type : String
  sourceLanguage : String
  targetLanguage : String
  confidence : Binary64
  protocol : Option String := none
  metadata : List (String × Json) := []
  deriving Repr, Inhabited

namespace Reference

/-- The kinds of references. -/
def types : List String :=
  ["calls", "implements", "extends", "imports", "api-call", "grpc-call", "graphql-query"]

/-- The protocols a reference may use. -/
def protocols : List String :=
  ["http", "grpc", "graphql", "direct", "websocket"]

/-- Why a reference is refused. -/
inductive Defect where
  | unknownType (type : String)
  | confidenceRange (confidence : Binary64)
  | unknownProtocol (protocol : String)
  deriving Repr, DecidableEq

/-- The wording of a defect. -/
def Defect.message : Defect → String
  | .unknownType t => "Unknown cross-reference type: " ++ t
  | .confidenceRange c => "Confidence out of range: " ++ Decimal.text Decimal.message c
  | .unknownProtocol p => "Unknown protocol: " ++ p

/-- Accepts a reference whose kind, confidence and protocol are allowed, in this order. -/
def check (r : Reference) : Except Defect Reference :=
  if !types.contains r.type then .error (.unknownType r.type)
  else if !r.confidence.isWithin 0 1 then
    .error (.confidenceRange r.confidence)
  else
    match r.protocol with
    | some p => if protocols.contains p then .ok r else .error (.unknownProtocol p)
    | none => .ok r

/-- Whether a reference joins two languages. -/
def isCrossLanguage (r : Reference) : Bool :=
  r.sourceLanguage != r.targetLanguage

/-- What tells references apart. -/
def key (r : Reference) : String × String × String :=
  (r.sourceId, r.targetId, r.type)

/-- A reference as a document. -/
def toJson (r : Reference) : Json :=
  .obj [("source_id", .str r.sourceId), ("target_id", .str r.targetId), ("type", .str r.type),
    ("source_language", .str r.sourceLanguage), ("target_language", .str r.targetLanguage),
    ("confidence", .real r.confidence), ("protocol", .ofText? r.protocol),
    ("metadata", .obj r.metadata)]

end Reference
end CrossAudit
