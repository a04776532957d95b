import CrossAudit.Entity.Basic
import CrossAudit.Text.Lines
import CrossAudit.Wire.Checked

/-!
# Responses of external analyzers

An analyzer prints one JSON document as the last line of its output: what it found, or why it
failed.  Names of fields are written with underscores or with capitals.
-/

namespace CrossAudit
namespace Wire

open Read

/-! ## What a response holds -/

/-- A finding. -/
structure Finding where
  file : String
  line : Int := 1
  column : Int := 1
  severity : String := "warning"
  message : String
  rule : String
  analyzer : String := "external"
  fix : Option String := none
  deriving Repr, DecidableEq, Inhabited

/-- A parameter of a function. -/
structure Parameter where
  name : String
  type : Option String := none
  optional : Bool := false
  default : Option String := none
  deriving Repr, DecidableEq, Inhabited

/-- A field of a shape. -/
structure Property where
  name : String
  type : Option String := none
  optional : Bool := false
  visibility : String := "public"
  deriving Repr, DecidableEq, Inhabited

/-- An entity. -/
structure Entity where
  id : Option String := none
  name : String
  type : String := "function"
  file : String
  startLine : Int := 1
  endLine : Int := 1
  signature : Option String := none
  parameters : List Parameter := []
  properties : List Property := []
  returnType : Option String := none
  visibility : String := "public"
  calls : List String := []
  bases : List String := []
  implements : List String := []
  apiEndpoint : Option String := none
  apiMethod : Option String := none
  requiresAuth : Bool := false
  deprecated : Bool := false
  complexity : Int := 1
  metadata : List (String × Json) := []
  deriving Repr, Inhabited

/-- An error on a file. -/
structure Trouble where
  file : Option String := none
  error : String
  deriving Repr, DecidableEq, Inhabited

/-- Figures. -/
structure Metrics where
  filesAnalyzed : Int := 0
  executionTime : Binary64 := .zero
  deriving Repr, DecidableEq, Inhabited

/-- What an analyzer found. -/
structure Result where
  findings : List Finding := []
  entities : List Entity := []
  metrics : Metrics := {}
  errors : List Trouble := []
  deriving Repr, Inhabited

/-- Why an analyzer failed. -/
structure Failure where
  code : Int := -32000
  message : String
  deriving Repr, DecidableEq, Inhabited

/-- A response. -/
structure Response where
  id : Option Int := none
  result : Option Result := none
  error : Option Failure := none
  deriving Repr, Inhabited

/-! ## Reading -/

/-- Reads a finding. -/
def Finding.read : Reader Finding :=
  object fun ms =>
    Finding.mk <$> required ms "file" text <*> orElse ms "line" integer 1 <*>
      orElse ms "column" integer 1 <*> orElse ms "severity" text "warning" <*>
      required ms "message" text <*> required ms "rule" text <*>
      orElse ms "analyzer" text "external" <*> orElse ms "fix" (nullable text) none

/-- Reads a parameter. -/
def Parameter.read : Reader Parameter :=
  object fun ms =>
    Parameter.mk <$> required ms "name" text <*> orElse ms "type" (nullable text) none <*>
      orElse ms "optional" truth false <*> orElse ms "default_value" (nullable text) none

/-- Reads a field. -/
def Property.read : Reader Property :=
  object fun ms =>
    Property.mk <$> required ms "name" text <*> orElse ms "type" (nullable text) none <*>
      orElse ms "optional" truth false <*> orElse ms "visibility" text "public"

/-- An entity has to be of a known type. -/
def Entity.check (e : Entity) : Option Problem :=
  if entityTypes.contains e.type then none else some (.unknownType e.type)

/-- Reads an entity. -/
def Entity.read : Reader Entity :=
  object fun ms => Checked.ensure Entity.check <|
    Entity.mk <$> orElse ms "id" (nullable text) none <*> required ms "name" text <*>
      orElse ms "type" text "function" <*> required ms "file" text <*>
      orElse ms "start_line" integer 1 <*> orElse ms "end_line" integer 1 <*>
      orElse ms "signature" (nullable text) none <*>
      orElse ms "parameters" (list Parameter.read) [] <*>
      orElse ms "properties" (list Property.read) [] <*>
      orElse ms "return_type" (nullable text) none <*> orElse ms "visibility" text "public" <*>
      orElse ms "calls" (list text) [] <*> orElse ms "extends" (list text) [] <*>
      orElse ms "implements" (list text) [] <*> orElse ms "api_endpoint" (nullable text) none <*>
      orElse ms "api_method" (nullable text) none <*> orElse ms "requires_auth" truth false <*>
      orElse ms "deprecated" truth false <*> orElse ms "complexity" integer 1 <*>
      orElse ms "metadata" table []

/-- Reads an error. -/
def Trouble.read : Reader Trouble :=
  object fun ms =>
    Trouble.mk <$> orElse ms "file" (nullable text) none <*> required ms "error" text

/-- Reads figures. -/
def Metrics.read : Reader Metrics :=
  object fun ms =>
    Metrics.mk <$> orElse ms "files_analyzed" integer 0 <*>
      orElse ms "execution_time" number .zero

/-- Reads what was found. -/
def Result.read : Reader Result :=
  object fun ms =>
    Result.mk <$> orElse ms "violations" (list Finding.read) [] <*>
      orElse ms "index_entries" (list Entity.read) [] <*> orElse ms "metrics" Metrics.read {} <*>
      orElse ms "errors" (list Trouble.read) []

/-- Reads a failure. -/
def Failure.read : Reader Failure :=
  object fun ms =>
    Failure.mk <$> orElse ms "code" integer (-32000) <*> required ms "message" text

/-- A response carries either a result or an error. -/
def Response.check (r : Response) : Option Problem :=
  if r.result.isSome == r.error.isSome then some .notExactlyOne else none

/-- Reads a response. -/
def Response.read : Reader Response :=
  object fun ms => Checked.ensure Response.check <|
    Response.mk <$> orElse ms "id" (nullable integer) none <*>
      orElse ms "result" (nullable Result.read) none <*>
      orElse ms "error" (nullable Failure.read) none

/-! ## Output of a program -/

/-- Why an output is no response. -/
inductive Breach where
  | silent
  | invalid (count : Nat) (first : Problem)
  deriving Repr, DecidableEq

/-- The wording of a breach. -/
def Breach.message : Breach → String
  | .silent => "analyzer produced no output"
  | .invalid n p => s!"invalid analyzer response ({n} error(s)): " ++ p.message

/-- How many containers a response may nest, empty ones apart. -/
def depthLimit : Nat := 200

/-- Reads a document. -/
def Response.ofText (line : String) : Checked Response :=
  match Json.parse depthLimit line with
  | .ok j => Response.read j
  | .error c => .bad (.unreadable c.flaw (Json.placeOf line.toList c.rest)) []

/-- The last line of an output that is not blank. -/
def lastLine? (output : String) : Option String :=
  ((Text.lines output).filter fun line => Text.strip line != "").getLast?

/-- Reads the output of a program. -/
def Response.ofOutput (output : String) : Except Breach Response :=
  match lastLine? output with
  | none => .error .silent
  | some line =>
    match Response.ofText line with
    | .ok r => .ok r
    | .bad p ps => .error (.invalid (ps.length + 1) p)

/-! ## Documents -/

/-- A finding as a document. -/
def Finding.toJson (f : Finding) : Json :=
  .obj [("file", .str f.file), ("line", .int f.line), ("column", .int f.column),
    ("severity", .str f.severity), ("message", .str f.message), ("rule", .str f.rule),
    ("analyzer", .str f.analyzer), ("fix", .ofText? f.fix)]

/-- A parameter as a document. -/
def Parameter.toJson (p : Parameter) : Json :=
  .obj [("name", .str p.name), ("type", .ofText? p.type), ("optional", .bool p.optional),
    ("default_value", .ofText? p.default)]

/-- A field as a document. -/
def Property.toJson (p : Property) : Json :=
  .obj [("name", .str p.name), ("type", .ofText? p.type), ("optional", .bool p.optional),
    ("visibility", .str p.visibility)]

/-- An entity as a document. -/
def Entity.toJson (e : Entity) : Json :=
  .obj [("id", .ofText? e.id), ("name", .str e.name), ("type", .str e.type), ("file", .str e.file),
    ("start_line", .int e.startLine), ("end_line", .int e.endLine),
    ("signature", .ofText? e.signature),
    ("parameters", .arr (e.parameters.map Parameter.toJson)),
    ("properties", .arr (e.properties.map Property.toJson)),
    ("return_type", .ofText? e.returnType), ("visibility", .str e.visibility),
    ("calls", .ofTexts e.calls), ("extends", .ofTexts e.bases),
    ("implements", .ofTexts e.implements), ("api_endpoint", .ofText? e.apiEndpoint),
    ("api_method", .ofText? e.apiMethod), ("requires_auth", .bool e.requiresAuth),
    ("deprecated", .bool e.deprecated), ("complexity", .int e.complexity),
    ("metadata", .obj e.metadata)]

/-- An error as a document. -/
def Trouble.toJson (t : Trouble) : Json :=
  .obj [("file", .ofText? t.file), ("error", .str t.error)]

/-- Figures as a document. -/
def Metrics.toJson (m : Metrics) : Json :=
  .obj [("files_analyzed", .int m.filesAnalyzed), ("execution_time", .real m.executionTime)]

/-- What was found as a document. -/
def Result.toJson (r : Result) : Json :=
  .obj [("violations", .arr (r.findings.map Finding.toJson)),
    ("index_entries", .arr (r.entities.map Entity.toJson)), ("metrics", r.metrics.toJson),
    ("errors", .arr (r.errors.map Trouble.toJson))]

/-- A failure as a document. -/
def Failure.toJson (f : Failure) : Json :=
  .obj [("code", .int f.code), ("message", .str f.message)]

/-- A response as a document. -/
def Response.toJson (r : Response) : Json :=
  .obj [("id", (r.id.map Json.int).getD .null),
    ("result", (r.result.map Result.toJson).getD .null),
    ("error", (r.error.map Failure.toJson).getD .null)]

end Wire
end CrossAudit
