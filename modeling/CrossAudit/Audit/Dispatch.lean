import CrossAudit.Launcher.Spawn

/-!
# Dispatching languages

The selected languages are analyzed one after the other.  Once the signal is raised, no further
language is started; those that are finished keep their results.
-/

namespace CrossAudit
namespace Audit

/-- A progress report of a language: how many of its files are done, and how many there are. -/
abbrev Progress := String × Nat × Nat

/-- What the languages came to. -/
structure Dispatch where
  results : List TaskResult := []
  progress : List Progress := []
  signal : Signal
  launcher : Launcher

/-- The result of a language that was not started. -/
def notStarted (language : String) : TaskResult :=
  .failed language "Analysis cancelled before start" "cancelled"

/-- Analyzes one language, unless the signal is raised. -/
def runLanguage (l : Launcher) (language : String) (files : List String)
    (options : List (String × Json)) (signal : Signal) : Launcher.Outcome :=
  if signal.raised then ⟨notStarted language, [], signal, l⟩
  else l.launch (l.runtimeFor language) language files options signal

/-- Analyzes languages in order. -/
def dispatch (groups : List (String × List String)) (options : List (String × Json)) :
    List String → Signal → Launcher → Dispatch
  | [], signal, l => { signal := signal, launcher := l }
  | language :: rest, signal, l =>
    let here := runLanguage l language ((groups.lookup language).getD []) options signal
    let others := dispatch groups options rest here.signal here.launcher
    { others with
      results := here.result :: others.results
      progress := here.progress.map (fun p => (language, p.1, p.2)) ++ others.progress }

end Audit
end CrossAudit
