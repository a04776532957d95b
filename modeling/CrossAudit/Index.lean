import CrossAudit.Assoc
import CrossAudit.Entity.Basic
import CrossAudit.Reference.Basic

/-!
# The index of entities

An index keeps entities by their id and references by their ends and kind.  What is written last
stays.  An update is written as a whole or not at all: it is refused if a line number does not fit
the index.
-/

namespace CrossAudit

/-- Entities and references by their keys. -/
structure Index where
  entities : List (String × Entity) := []
  references : List ((String × String × String) × Reference) := []
  deriving Inhabited

namespace Index

/-- Why an update is refused. -/
inductive Refusal where
  | tooLarge
  deriving Repr, DecidableEq

/-- The wording of a refusal. -/
def Refusal.message : Refusal → String
  | .tooLarge => "Python int too large to convert to SQLite INTEGER"

/-- Whether a number fits a signed word of 64 bits. -/
def fits (n : Int) : Bool :=
  -9223372036854775808 ≤ n && n ≤ 9223372036854775807

/-- A row to be written. -/
inductive Row where
  | entity (e : Entity)
  | reference (r : Reference)

/-- Why a row is refused, if it is: the lines of an entity have to fit. -/
def refusal : Row → Option Refusal
  | .entity e => if fits e.startLine && fits e.endLine then none else some .tooLarge
  | .reference _ => none

/-- Writes a row, over the one that has the same key. -/
def put (x : Index) : Row → Index
  | .entity e => { x with entities := Assoc.set e.id e x.entities }
  | .reference r => { x with references := Assoc.set r.key r x.references }

/-- Writes rows one after the other, up to the first that is refused. -/
def putAll {ε : Type} (refuse : Row → Option ε) : Index → List Row → Except ε Index
  | x, [] => .ok x
  | x, row :: rest =>
    match refuse row with
    | some e => .error e
    | none => putAll refuse (x.put row) rest

/-- The rows of an update: its entities, then its references. -/
def rowsOf (entities : List Entity) (references : List Reference) : List Row :=
  entities.map .entity ++ references.map .reference

/-- Writes entities and references, with a test that may refuse any of them.  If one is refused,
nothing is written: the rows before it are lost with the index that they were written to. -/
def updateBy {ε : Type} (refuse : Row → Option ε) (x : Index) (entities : List Entity)
    (references : List Reference) : Except ε Index :=
  putAll refuse x (rowsOf entities references)

/-- Writes entities and references. -/
def update (x : Index) (entities : List Entity) (references : List Reference) :
    Except Refusal Index :=
  x.updateBy refusal entities references

/-- The index without its content. -/
def clear (_ : Index) : Index :=
  {}

/-- The number of entities and of references. -/
def counts (x : Index) : Nat × Nat :=
  (x.entities.length, x.references.length)

/-- The order of entities: by file, then by first line, then by id. -/
def entityLe (a b : Entity) : Bool :=
  if a.file == b.file then
    if a.startLine == b.startLine then decide (a.id ≤ b.id) else decide (a.startLine ≤ b.startLine)
  else decide (a.file ≤ b.file)

/-- The entities of a language, or all of them if it is empty. -/
def entitiesOf (x : Index) (language : String) : List Entity :=
  ((x.entities.map (·.2)).filter fun e => language == "" || e.language == language).mergeSort
    entityLe

/-- The order of references: by source, then by target, then by kind. -/
def referenceLe (a b : Reference) : Bool :=
  if a.sourceId == b.sourceId then
    if a.targetId == b.targetId then decide (a.type ≤ b.type) else decide (a.targetId ≤ b.targetId)
  else decide (a.sourceId ≤ b.sourceId)

/-- The references at an entity, or all of them if the id is empty. -/
def referencesOf (x : Index) (id : String) : List Reference :=
  ((x.references.map (·.2)).filter fun r =>
    id == "" || r.sourceId == id || r.targetId == id).mergeSort referenceLe

/-- A confidence as the index keeps it: zero has no sign there. -/
def keptConfidence (x : Binary64) : Binary64 :=
  if x.isZero then .zero else x

/-- A stored reference as a document. -/
def rowJson (r : Reference) : Json :=
  .obj [("source_id", .str r.sourceId), ("target_id", .str r.targetId), ("ref_type", .str r.type),
    ("source_language", .str r.sourceLanguage), ("target_language", .str r.targetLanguage),
    ("confidence", .real (keptConfidence r.confidence)), ("protocol", .ofText? r.protocol),
    ("metadata", .obj r.metadata)]

end Index
end CrossAudit
