import CrossAudit.Pass.Run
import CrossAudit.Task.Result

/-!
# Analysis in process

A run can be cancelled from outside at any moment.  What a run can observe of this is a `Signal`:
whether it is raised, how many progress reports have been made, and at which report it will be
raised, if it is going to be.

The chosen passes run one after the other, then the entities are extracted.  A raised signal stops
before the next pass; a pass that is running is finished.  Since every pass reads the files anew, a
broken file is reported by each of them; the records are kept once.
-/

namespace CrossAudit

/-! ## Cancellation -/

/-- The state of a run's cancellation. -/
structure Signal where
  raised : Bool := false
  reports : Nat := 0
  raiseAt : Option Nat := none
  deriving Repr, DecidableEq, Inhabited

namespace Signal

/-- One progress report; it may be the one at which the signal is raised. -/
def report (s : Signal) : Signal :=
  let reports := s.reports + 1
  { s with reports := reports, raised := s.raised || s.raiseAt == some reports }

/-- Raises the signal. -/
def raise (s : Signal) : Signal :=
  { s with raised := true }

end Signal

/-! ## Analysis -/

namespace Native

/-- The names in an `analyzers` option: none if it is missing or null, else its elements. -/
def passNames (options : Json) : Except Fault (Option (List String)) :=
  match options.get? "analyzers" with
  | none | some .null => .ok none
  | some v => do
    let names ← (← v.elements).mapM fun e =>
      match e with
      | .arr _ | .obj _ => Except.error (Fault.unhashable e.shapeName)
      | e => .ok (e.str?.getD "")
    return some names

/-- Adds a record, unless its file already has one of its kind and wording. -/
def addRecord (kept : List ErrorRecord) (e : ErrorRecord) : List ErrorRecord :=
  if kept.any fun k => k.file == e.file && k.kind == e.kind && k.error == e.error then kept
  else kept ++ [e]

/-- The records without repetitions. -/
def dedupe (errors : List ErrorRecord) : List ErrorRecord :=
  errors.foldl addRecord []

/-- Hears of progress: every report is kept, and it may be the one at which the signal is raised. -/
def monitor : Pass.Listener (List (Nat × Nat) × Signal) := fun report (heard, s) =>
  (.ok (), heard ++ [report], s.report)

/-- Runs passes until the signal is raised or one of them is stopped.  The signal is looked at
between passes only. -/
def runPasses (w : Workspace) (r : Registry) (files : List String) (config : Json) :
    List Pass → Signal → Except Fault Pass.Outcome × List (Nat × Nat) × Signal
  | [], s => (.ok {}, [], s)
  | p :: rest, s =>
    if s.raised then (.ok {}, [], s)
    else
      match p.analyze w r monitor files config ([], s) with
      | (.error f, progress, s) => (.error f, progress, s)
      | (.ok here, progress, s) =>
        let (others, more, s) := runPasses w r files config rest s
        (others.map here.append, progress ++ more, s)

/-- Whether entities are wanted. -/
def wantsEntities (options : Json) : Bool :=
  ((options.get? "extract_entities").map Json.holds).getD true

/-- What an analysis comes to: the result, the progress reported on the way, and the signal
afterwards. -/
structure Outcome where
  result : Except Fault TaskResult
  progress : List (Nat × Nat) := []
  signal : Signal

/-- The entities of the files, if they are wanted and the signal is not raised. -/
def extract (w : Workspace) (r : Registry) (files : List String) (options : Json)
    (signal : Signal) : Except Fault Extraction.Yield :=
  if !signal.raised && wantsEntities options then Extraction.attempt w r files else .ok {}

/-- The record of a cancellation. -/
def cancellation (language : String) (signal : Signal) : List ErrorRecord :=
  if signal.raised then
    [{ error := "Analysis cancelled", kind := "cancelled", language := some language }]
  else []

/-- The analysis of the files of a language. -/
def analyze (w : Workspace) (r : Registry) (language : String) (files : List String)
    (options : Json) (signal : Signal) : Outcome :=
  match passNames options with
  | .error f => ⟨.error f, [], signal⟩
  | .ok names =>
    let config := (options.get? "config").getD .null
    let (out, progress, signal) := runPasses w r files config (Pass.select names) signal
    let result := do
      let out ← out
      let found ← extract w r files options signal
      return {
        language := language
        findings := out.findings
        entities := found.entities
        metrics := { filesAnalyzed := found.processed }
        errors := dedupe (out.errors ++ found.errors ++ cancellation language signal) }
    ⟨result, progress, signal⟩

end Native
end CrossAudit
