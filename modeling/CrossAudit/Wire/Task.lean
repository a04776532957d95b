import CrossAudit.Entity.Extraction
import CrossAudit.Task.Result
import CrossAudit.Wire.Response

/-!
# Results of external analyzers

What an analyzer found becomes the result of its language.  The names that it gives entities are
put behind the language, so that they cannot meet the names of another language; where it gives
none, or one twice, a free name is taken.
-/

namespace CrossAudit
namespace Wire

/-- A finding of the analyzer. -/
def Finding.toFinding (f : Finding) : CrossAudit.Finding :=
  { file := f.file, line := .int f.line, column := .int f.column, severity := f.severity
    message := f.message, rule := f.rule, analyzer := f.analyzer, fix := f.fix }

/-- The contract of an entity with a route. -/
def Entity.contract? (e : Entity) : Option ApiContract :=
  if e.apiEndpoint.getD "" == "" then none
  else
    some
      { response := Extraction.bodySchema e.returnType
        authentication := if e.requiresAuth then some {} else none
        deprecated := e.deprecated }

/-- The notes on an entity: the names it calls, and its metadata, which may override them. -/
def Entity.notes (e : Entity) : List (String × Json) :=
  Assoc.ofPairs (("call_names", .ofTexts e.calls) :: e.metadata)

/-- An entity of the analyzer under a name. -/
def Entity.toEntity (language id : String) (e : Entity) : CrossAudit.Entity :=
  { id := id
    name := e.name
    language := language
    file := e.file
    type := e.type
    startLine := e.startLine
    endLine := e.endLine
    signature := e.signature
    parameters := e.parameters.map fun p =>
      { name := p.name, type := p.type, optional := p.optional, default := p.default }
    returnType := e.returnType
    properties := e.properties.map fun p =>
      { name := p.name, type := p.type, visibility := p.visibility, optional := p.optional }
    visibility := e.visibility
    isExported := e.visibility == "public"
    bases := e.bases
    implements := e.implements
    apiEndpoint := e.apiEndpoint
    apiMethod := if e.apiMethod.getD "" == "" then none else e.apiMethod.map Text.upper
    apiContract := e.contract?
    complexity := e.complexity
    metadata := e.notes }

/-- Takes the name of an entity. -/
def Entity.takeId (language : String) (pool : IdPool) (e : Entity) : String × IdPool :=
  match e.id with
  | some id =>
    if id == "" then pool.allocate language e.type e.file e.name e.startLine 1
    else pool.claim (language ++ ":" ++ id)
  | none => pool.allocate language e.type e.file e.name e.startLine 1

/-- Entities of the analyzer, named in order. -/
def Entity.nameAll (language : String) : IdPool → List Entity → List CrossAudit.Entity
  | _, [] => []
  | pool, e :: rest =>
    let (id, pool) := e.takeId language pool
    e.toEntity language id :: nameAll language pool rest

/-- The result of a language. -/
def Result.toTask (language : String) (r : Result) : TaskResult :=
  { language := language
    findings := r.findings.map Finding.toFinding
    entities := Entity.nameAll language {} r.entities
    metrics := ⟨r.metrics.filesAnalyzed, r.metrics.executionTime⟩
    errors := r.errors.map fun t =>
      { error := t.error, kind := "analysis", file := t.file, language := some language } }

end Wire
end CrossAudit
