import CrossAudit.Assoc
import CrossAudit.Contract.Pairing
import CrossAudit.Reference.Basic
import CrossAudit.Reference.Names

/-!
# Resolving references

References are inferred from names: calls, base types, imports and requests.  A name that nothing
answers to is dropped.  Of several references of one kind between the same two entities the most
confident one is kept, and resolved calls are noted on both of their ends.
-/

namespace CrossAudit
namespace Reference

/-! ## Confidence -/

/-- A call within one file. -/
def callSameFile : Binary64 := .ofRat (9 / 10)

/-- A call within one language. -/
def callSameLanguage : Binary64 := .ofRat (7 / 10)

/-- A call across languages. -/
def callAcross : Binary64 := .ofRat (4 / 10)

/-- A base type of the same language. -/
def baseSameLanguage : Binary64 := .ofRat (9 / 10)

/-- A base type of another language. -/
def baseAcross : Binary64 := .ofRat (6 / 10)

/-- An import. -/
def importResolved : Binary64 := .ofRat (95 / 100)

/-- A request whose path and method match. -/
def requestFull : Binary64 := .ofRat (9 / 10)

/-- A request whose path alone matches. -/
def requestPathOnly : Binary64 := .ofRat (6 / 10)

/-- A reference between two entities. -/
def between (source target : Entity) (type protocol : String) (confidence : Binary64)
    (metadata : List (String × Json)) : Reference :=
  { sourceId := source.id, targetId := target.id, type := type
    sourceLanguage := source.language, targetLanguage := target.language
    confidence := confidence, protocol := some protocol, metadata := metadata }

/-! ## Calls -/

/-- The entities that a called name may mean: functions of that name, else classes. -/
def callCandidates (entities : List Entity) (name : String) : List Entity :=
  let functions := entities.filter fun e => e.type == "function" && e.name == name
  if functions.isEmpty then
    entities.filter fun e => ["class", "schema", "struct"].contains e.type && e.name == name
  else functions

/-- The candidate closest to a caller, and how sure that is: one of its class, of its file, of
its language, or any. -/
def closest (source : Entity) (candidates : List Entity) : Option (Entity × Binary64) :=
  let others := candidates.filter fun c => c.id != source.id
  let sameFile := others.filter fun c => c.file == source.file
  let sameClass := sameFile.filter fun c =>
    source.className.getD "" != "" && c.className == source.className
  let sameLanguage := others.filter fun c => c.language == source.language
  match sameClass, sameFile, sameLanguage, others with
  | c :: _, _, _, _ => some (c, callSameFile)
  | [], c :: _, _, _ => some (c, callSameFile)
  | [], [], c :: _, _ => some (c, callSameLanguage)
  | [], [], [], c :: _ => some (c, callAcross)
  | [], [], [], [] => none

/-- The reference of one called name. -/
def ofCallName (entities : List Entity) (source : Entity) (name : Json) :
    Except Fault (List Reference) :=
  match name with
  | .str s =>
    .ok ((closest source (callCandidates entities (Text.lastPiece '.' s))).map fun (target, sure) =>
      between source target "calls" "direct" sure [("name", .str s)]).toList
  | v => .error (.noAttribute v.shapeName "split")

/-- The call references of entities. -/
def calls (entities : List Entity) : Except Fault (List Reference) := do
  let found ← entities.mapM fun e => do
    let names ← ((e.metadata.lookup "call_names").getD (.arr [])).elements
    return (← names.mapM (ofCallName entities e)).flatten
  return found.flatten

/-! ## Base types -/

/-- The kinds of entities that can be a base. -/
def baseTypes : List String :=
  ["class", "interface", "schema", "struct"]

/-- The reference of one base. -/
def ofBase (entities : List Entity) (source : Entity) (type raw : String) : Option Reference :=
  let named := baseName raw
  let candidates := entities.filter fun c =>
    baseTypes.contains c.type && c.name == named && c.id != source.id
  match candidates.find? fun c => c.language == source.language with
  | some same => some (between source same type "direct" baseSameLanguage [("name", .str raw)])
  | none =>
    candidates.head?.map fun c => between source c type "direct" baseAcross [("name", .str raw)]

/-- The base references of entities. -/
def heritage (entities : List Entity) : List Reference :=
  entities.flatMap fun e =>
    e.bases.filterMap (ofBase entities e "extends") ++
      e.implements.filterMap (ofBase entities e "implements")

/-! ## Imports -/

/-- The better of two modules for a key: the first, unless the second shares more of the key. -/
def betterModule (key : List String) (best : Option Entity) (c : Entity) : Option Entity :=
  match best with
  | some b => if suffixOverlap key b.file < suffixOverlap key c.file then some c else some b
  | none => some c

/-- The module that an import key names. -/
def importedModule? (modules : List Entity) (source : Entity) (key : List String) :
    Option Entity :=
  (modules.filter fun c =>
    some c.name == key.getLast? && c.id != source.id && c.language == source.language).foldl
      (betterModule key) none

/-- The reference of one import. -/
def ofImport (modules : List Entity) (source : Entity) (note : Json) :
    Except Fault (Option Reference) := do
  match (← note.member "source").getD (.str "") with
  | .str s =>
    return (importedModule? modules source (moduleKey s)).map fun target =>
      between source target "imports" "direct" importResolved [("source", .str s)]
  | v => throw (.noAttribute v.shapeName "strip")

/-- The import references of entities. -/
def imports (entities : List Entity) : Except Fault (List Reference) := do
  let modules := entities.filter fun e => e.type == "module"
  let found ← modules.mapM fun m => do
    let notes ← ((m.metadata.lookup "imports").getD (.arr [])).elements
    return (← notes.mapM (ofImport modules m)).filterMap id
  return found.flatten

/-! ## Requests -/

/-- The reference of a request that has an endpoint. -/
def ofPairing (p : Contract.Pairing) : Option Reference :=
  p.2.map fun (e, kind) =>
    between p.1.entity e "api-call" "http"
      (if kind == .full then requestFull else requestPathOnly)
      [("method", .str p.1.method), ("url", p.1.url), ("line", p.1.line)]

/-- The request references of entities. -/
def requests (entities : List Entity) : Except Fault (List Reference) := do
  return (← Contract.pair entities).filterMap ofPairing

/-! ## All references -/

/-- Every reference that is inferred, repetitions included. -/
def inferred (entities : List Entity) : Except Fault (List Reference) := do
  return (← calls entities) ++ heritage entities ++ (← imports entities) ++ (← requests entities)

/-- Adds a reference; one with the same ends and kind gives way to a more confident one. -/
def addBest (kept : List ((String × String × String) × Reference)) (r : Reference) :
    List ((String × String × String) × Reference) :=
  Assoc.update r.key r (fun old => if old.confidence.lt r.confidence then r else old)
    kept

/-- The most confident reference for each two ends and kind. -/
def strongest (rs : List Reference) : List Reference :=
  (rs.foldl addBest []).map (·.2)

/-- Adds a name to a list, unless it is there. -/
def addName (name : String) (names : List String) : List String :=
  if names.contains name then names else names ++ [name]

/-- Changes the last entity of a name. -/
def changeLast (id : String) (f : Entity → Entity) (entities : List Entity) : List Entity :=
  let rec go : List Entity → List Entity
    | [] => []
    | e :: rest => if e.id == id then f e :: rest else e :: go rest
  (go entities.reverse).reverse

/-- Notes a call on both of its ends. -/
def noteCall (entities : List Entity) (r : Reference) : List Entity :=
  if r.type == "calls" then
    changeLast r.targetId (fun e => { e with calledBy := addName r.sourceId e.calledBy })
      (changeLast r.sourceId (fun e => { e with calls := addName r.targetId e.calls }) entities)
  else entities

/-- The references among entities, and the entities with their calls noted. -/
def build (entities : List Entity) : Except Fault (List Reference × List Entity) := do
  let resolved := strongest (← inferred entities)
  return (resolved, resolved.foldl noteCall entities)

end Reference
end CrossAudit
