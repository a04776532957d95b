import CrossAudit.Audit.Options
import CrossAudit.Graph.Build
import CrossAudit.Reference.Resolution
import CrossAudit.Report.Merge
import CrossAudit.Schema.Consistency

/-!
# Phases across languages

After the results of the languages are merged, the phases of a run look at all entities together:
contracts, schemas, references, the dependency graph, and the index.  A phase that fails leaves an
error in the report and does not touch what the others found.
-/

namespace CrossAudit
namespace Audit

/-- A report in which no feature was asked for yet. -/
def withFeatures (r : Report) : Report :=
  { r with features := Feature.all.map fun f => (f, .disabled) }

/-! ## Contracts and schemas -/

/-- The wording of a failed check of contracts. -/
def contractWording (f : Fault) : String :=
  "API contract validation failed: " ++ f.message

/-- The report of a run whose contracts could not be checked. -/
def withoutContracts (r : Report) (f : Fault) : Report :=
  (r.addError "validation" (contractWording f)).mark .apiContracts .failed

/-- The phase of contracts: findings, the use of endpoints, and the number of calls.  Each of them
enters the report before the next one is computed. -/
def contractPhase (r : Report) : Report :=
  match Contract.validate r.entities with
  | .error f => withoutContracts r f
  | .ok findings =>
    let r := { r with crossFindings := r.crossFindings ++ findings }
    match Contract.summarize r.entities with
    | .error f => withoutContracts r f
    | .ok usage =>
      let r := { r with contracts := usage }
      match Contract.callSites r.entities with
      | .error f => withoutContracts r f
      | .ok calls =>
        { r.mark .apiContracts .completed with
          metrics := { r.metrics with contractsChecked := calls.length } }

/-- A switch in the configuration of a run, on unless it says otherwise. -/
def switch (config : Json) (key : String) : Except Fault Bool := do
  return ((← config.member key).map Json.holds).getD true

/-- Checks the schemas among entities. -/
def checkSchemas (config : Json) (entities : List Entity) : Except Fault (List Finding) := do
  let strict ← switch config "strict_type_checking"
  let additional ← switch config "allow_additional_fields"
  return Schema.validate { strictTypes := strict, allowAdditional := additional } entities

/-- The wording of a failed check of schemas. -/
def schemaWording (f : Fault) : String :=
  "Schema consistency check failed: " ++ f.message

/-- The phase of schemas. -/
def schemaPhase (config : Json) (r : Report) : Report :=
  match checkSchemas config r.entities with
  | .error f =>
    (r.addError "validation" (schemaWording f)).mark .schemaConsistency .failed
  | .ok found =>
    { r.mark .schemaConsistency .completed with crossFindings := r.crossFindings ++ found }

/-- The phases of contracts and schemas; what is not grave enough is dropped. -/
def crossPhase (o : Options) (r : Report) : Report :=
  let r := if o.contracts then contractPhase r else r
  let r := if o.schemas then schemaPhase o.config r else r
  { r.mark .crossLanguage .completed with
    crossFindings := Report.graveEnough o.minSeverity r.crossFindings }

/-! ## References and graph -/

/-- The wording of failed references. -/
def referenceWording (f : Fault) : String :=
  "Cross-reference building failed: " ++ f.message

/-- The report of a run whose references could not be built. -/
def withoutReferences (o : Options) (r : Report) (f : Fault) : Report :=
  let r := r.addError "analysis" (referenceWording f)
  let r := if o.references then r.mark .crossReferences .failed else r
  if o.graph then r.mark .dependencyGraph .skipped else r

/-- Puts references and entities that know of them into a report. -/
def addReferences (o : Options) (r : Report) (references : List Reference)
    (entities : List Entity) : Report :=
  let r :=
    { r with
      entities := entities
      metrics := { r.metrics with
        crossLanguageReferences := references.countP Reference.isCrossLanguage } }
  if o.references then { r.mark .crossReferences .completed with references := references } else r

/-- Puts the graph of references into a report. -/
def addGraph (o : Options) (r : Report) (references : List Reference) : Report :=
  if o.graph then
    { r.mark .dependencyGraph .completed with
      graph := some (Graph.build { criticalLength := o.criticalLength } r.entities references) }
  else r

/-- The phase of references and the graph, with the references for the phases that follow. -/
def referencePhase (o : Options) (r : Report) : Report × List Reference :=
  match Reference.build r.entities with
  | .error f => (withoutReferences o r f, [])
  | .ok (references, entities) =>
    (addGraph o (addReferences o r references entities) references, references)

/-! ## Index -/

/-- A keeper of entities and references: its state, and how it takes an update or refuses it. -/
structure Archive (σ : Type) where
  state : σ
  write : σ → List Entity → List Reference → Except String σ

/-- The wording of a refused update. -/
def indexWording (reason : String) : String :=
  "Index update failed: " ++ reason

/-- The phase of the index. -/
def indexPhase {σ : Type} (archive : Option (Archive σ)) (r : Report)
    (references : List Reference) : Report × Option (Archive σ) :=
  match archive with
  | none => (r.mark .indexUpdate .skipped, none)
  | some a =>
    match a.write a.state r.entities references with
    | .ok state => (r.mark .indexUpdate .completed, some { a with state := state })
    | .error reason =>
      ((r.addError "index" (indexWording reason)).mark .indexUpdate .failed, some a)

/-! ## All phases -/

/-- The phases that a run asks for, on a merged report. -/
def phases {σ : Type} (o : Options) (archive : Option (Archive σ)) (r : Report) :
    Report × Option (Archive σ) :=
  let r := withFeatures r
  let r := if o.crossLanguage then crossPhase o r else r
  let (r, references) := if o.needsReferences then referencePhase o r else (r, [])
  if o.index then indexPhase archive r references else (r, archive)

/-- The last word on a run that was cancelled. -/
def noteCancellation (cancelled : Bool) (r : Report) : Report :=
  if cancelled then r.addError "cancelled" "Analysis cancelled; partial results returned" else r

end Audit
end CrossAudit
