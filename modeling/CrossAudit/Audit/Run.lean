import CrossAudit.Audit.Dispatch
import CrossAudit.Audit.Phase
import CrossAudit.Audit.Selection

/-!
# Runs

A run finds the files of a project, analyzes each of its languages, merges the results, and looks
at all of them together.
-/

namespace CrossAudit
namespace Audit

/-- Why a run has no report. -/
inductive Failure where
  | discovery (f : Discovery.Failure)
  | fault (f : Fault)

/-- The wording of a failure. -/
def Failure.message : Failure → String
  | .discovery f => f.message
  | .fault f => f.message

/-- What a run came to: its report, the progress that was reported, and whether it was
cancelled. -/
structure Outcome where
  report : Report
  progress : List Progress
  cancelled : Bool

/-- What a run leaves behind: its outcome, and the launcher and the archive afterwards. -/
structure Ending (σ : Type) where
  outcome : Except Failure Outcome
  launcher : Launcher
  archive : Option (Archive σ)

/-- The results of the selected languages; the options matter only if there are any. -/
def analyze (o : Options) (groups : List (String × List String)) (languages : List String)
    (signal : Signal) (l : Launcher) : Except Fault Dispatch :=
  if languages.isEmpty then .ok { signal := signal, launcher := l }
  else do return dispatch groups (← o.forTask) languages signal l

/-- The report of a run from its selection and the results of the languages. -/
def conclude {σ : Type} (o : Options) (archive : Option (Archive σ)) (s : Selection)
    (d : Dispatch) : Outcome × Option (Archive σ) :=
  let merged := Report.merge o.minSeverity d.results
  let (r, archive) := phases o archive { merged with errors := s.errors ++ merged.errors }
  (⟨noteCancellation d.signal.raised r, d.progress, d.signal.raised⟩, archive)

/-- A run on files that are already found. -/
def runOn {σ : Type} (o : Options) (files : List String) (signal : Signal)
    (archive : Option (Archive σ)) (l : Launcher) : Ending σ :=
  let groups := Discovery.groupByLanguage l.registry files
  match select (candidates o.languages groups) l with
  | (.error f, l) => ⟨.error (.fault f), l, archive⟩
  | (.ok s, l) =>
    match analyze o groups s.languages signal l with
    | .error f => ⟨.error (.fault f), l, archive⟩
    | .ok d =>
      let (outcome, archive) := conclude o archive s d
      ⟨.ok outcome, d.launcher, archive⟩

/-- A run on the outcome of a search for files. -/
def runAfter {σ : Type} (o : Options) (found : Except Discovery.Failure (List String))
    (signal : Signal) (archive : Option (Archive σ)) (l : Launcher) : Ending σ :=
  match found with
  | .error f => ⟨.error (.discovery f), l, archive⟩
  | .ok files => runOn o files signal archive l

/-- A run on the files below a root. -/
def run {σ : Type} (o : Options) (root : String) (signal : Signal)
    (archive : Option (Archive σ)) (l : Launcher) : Ending σ :=
  runAfter o (Discovery.search l.workspace root o.includes o.excludes) signal archive l

end Audit
end CrossAudit
