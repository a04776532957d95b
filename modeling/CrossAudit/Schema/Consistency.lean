import CrossAudit.Assoc
import CrossAudit.Entity.Basic
import CrossAudit.Finding
import CrossAudit.Schema.TypeName

/-!
# Consistency of data shapes

Shapes of one name in different files or languages are compared field by field with the first of
them: a field that is required on one side must exist on the other, and its types must be
compatible.
-/

namespace CrossAudit
namespace Schema

/-- How strictly shapes are compared. -/
structure Options where
  strictTypes : Bool := true
  allowAdditional : Bool := true
  deriving Repr

/-- The kinds of entities that are data shapes. -/
def shapeTypes : List String :=
  ["interface", "class", "struct", "schema"]

/-- The group of an entity: none unless it is a shape with fields and a name of its own. -/
def groupOf? (e : Entity) : Option String :=
  let key := groupName e.name
  if shapeTypes.contains e.type && !e.properties.isEmpty && key != "" then some key else none

/-- The shapes among entities, in groups by name. -/
def group (entities : List Entity) : List (String × List Entity) :=
  Assoc.group groupOf? entities

/-- The fields of a shape by name; of a repeated name the last declaration counts. -/
def fields (e : Entity) : List (String × Property) :=
  Assoc.ofPairs (e.properties.map fun p => (p.name, p))

/-- The items of a list without repetitions. -/
def distinct (names : List String) : List String :=
  names.foldl (fun kept n => if kept.contains n then kept else kept ++ [n]) []

/-- A finding on one shape in comparison with another one. -/
def finding (target other : Entity) (rule severity message : String) (fix : Option String)
    (field : String) (details : List (String × Json)) : Finding :=
  { file := target.file
    line := .int target.startLine
    column := .int 1
    severity := severity
    message := message
    rule := rule
    analyzer := "schema-consistency"
    fix := fix
    details := details ++ (if field == "" then [] else [("field", .str field)])
    link := some
      { crossType := rule
        relatedFiles := distinct [target.file, other.file]
        relatedLanguages := distinct [target.language, other.language] } }

/-- The finding that a field of one shape is missing from another one. -/
def missing (target owner : Entity) (field : String) : Finding :=
  finding target owner "missing-field" "warning"
    (s!"Field '{field}' of {owner.name} ({owner.language}) " ++
      s!"is missing from {target.name} ({target.language})")
    (some s!"Add field '{field}' to {target.name}") field []

/-- The finding that a field has two types that do not go together, if it has. -/
def typeDrift (o : Options) (reference current : Entity) (field : String)
    (refField curField : Property) : List Finding :=
  let expected := normalize? reference.language refField.type
  let actual := normalize? current.language curField.type
  if compatible expected actual then []
  else
    let want := expected.getD ""
    let got := actual.getD ""
    [finding current reference "type-mismatch" (if o.strictTypes then "critical" else "warning")
      s!"Type mismatch for field '{field}': expected {want}, got {got}"
      (some s!"Change field type to {want} or update {reference.name}") field
      [("expectedType", .ofText? expected), ("actualType", .ofText? actual)]]

/-- The findings on the fields of the reference. -/
def compareForward (o : Options) (reference current : Entity) : List Finding :=
  (fields reference).flatMap fun (name, refField) =>
    match (fields current).lookup name with
    | some curField => typeDrift o reference current name refField curField
    | none => if refField.optional then [] else [missing current reference name]

/-- The findings on the fields that only the other shape has. -/
def compareBackward (o : Options) (reference current : Entity) : List Finding :=
  ((fields current).filter fun f => ((fields reference).lookup f.1).isNone).flatMap
    fun (name, curField) =>
      if !curField.optional then [missing reference current name]
      else if !o.allowAdditional then
        [finding current reference "extra-field" "suggestion"
          s!"Field '{name}' exists only in {current.name} ({current.language})" none name []]
      else []

/-- The findings on two shapes. -/
def compare (o : Options) (reference current : Entity) : List Finding :=
  compareForward o reference current ++ compareBackward o reference current

/-- Whether two shapes are declared in the same place. -/
def sameHome (a b : Entity) : Bool :=
  a.language == b.language && a.file == b.file

/-- The findings on a group: every member is compared with the first. -/
def compareGroup (o : Options) (members : List Entity) : List Finding :=
  match members with
  | [] => []
  | reference :: others =>
    (others.filter fun e => !sameHome e reference).flatMap (compare o reference)

/-- The findings on the shapes among entities. -/
def validate (o : Options) (entities : List Entity) : List Finding :=
  (group entities).flatMap fun g => compareGroup o g.2

end Schema
end CrossAudit
