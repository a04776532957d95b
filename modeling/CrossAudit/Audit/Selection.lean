import CrossAudit.Audit.Options
import CrossAudit.Discovery
import CrossAudit.Finding
import CrossAudit.Launcher.Basic

/-!
# Selecting languages

Of the languages that were found, those that are wanted are taken in the order of their names.  A
language without a usable runtime becomes an error instead.
-/

namespace CrossAudit
namespace Audit

/-- Texts in the order of their characters. -/
def sorted (names : List String) : List String :=
  names.mergeSort fun a b => decide (a ≤ b)

/-- Whether a language is wanted: if none are named, all of them are. -/
def wants (requested : List String) (language : String) : Bool :=
  requested.isEmpty || (requested.map Text.lower).contains language

/-- The languages of groups of files that are wanted. -/
def candidates (requested : List String) (groups : List (String × List String)) : List String :=
  (sorted (groups.map (·.1))).filter (wants requested)

/-- The languages that a run takes, and the errors of those that it cannot take. -/
structure Selection where
  languages : List String := []
  errors : List ErrorRecord := []
  deriving Repr, DecidableEq, Inhabited

namespace Selection

/-- A selection with one more language in front. -/
def take (s : Selection) (language : String) : Selection :=
  { s with languages := language :: s.languages }

/-- The error of a language without a runtime. -/
def unavailable (language reason : String) : ErrorRecord :=
  { error := "No runtime available for " ++ language ++ ": " ++ reason
    kind := "runtime-unavailable", language := some language }

/-- A selection with one more error in front. -/
def refuse (s : Selection) (language reason : String) : Selection :=
  { s with errors := unavailable language reason :: s.errors }

end Selection

/-- Selects the languages that the launcher can analyze, up to the first fault. -/
def select : List String → Launcher → Except Fault Selection × Launcher
  | [], l => (.ok {}, l)
  | language :: rest, l =>
    match l.canAnalyze language with
    | (.error f, l) => (.error f, l)
    | (.ok true, l) =>
      let (s, l) := select rest l
      (s.map (·.take language), l)
    | (.ok false, l) =>
      match l.unavailableReason language with
      | (.error f, l) => (.error f, l)
      | (.ok reason, l) =>
        let (s, l) := select rest l
        (s.map (·.refuse language reason), l)

end Audit
end CrossAudit
