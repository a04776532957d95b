import CrossAudit.Console.Arguments

/-!
# Commands

What can be asked of the program on its command line.
-/

namespace CrossAudit
namespace Console

/-- What to analyze, and how; what is not given comes from the configuration. -/
structure AnalyzeRequest where
  path : String
  languages : List String := []
  analyzers : List String := []
  minSeverity : Option String := none
  crossLanguage : Bool := true
  contracts : Bool := true
  graph : Bool := false
  references : Bool := false
  index : Bool := false
  json : Bool := false
  output : Option String := none
  deriving Repr, DecidableEq, Inhabited

/-- Which settings of a runtime to save. -/
structure RuntimeRequest where
  runtime : String
  path : Option String := none
  analyzer : Option String := none
  disable : Bool := false
  enable : Bool := false
  deriving Repr, DecidableEq, Inhabited

/-- Which graph to export, in which format, and where to. -/
structure GraphRequest where
  path : String
  format : String := "html"
  output : Option String := none
  focus : String := ""
  deriving Repr, DecidableEq, Inhabited

/-- A command. -/
inductive Command where
  | help
  | version
  | analyze (r : AnalyzeRequest)
  | runtimes (json : Bool)
  | setRuntime (r : RuntimeRequest)
  | graph (r : GraphRequest)
  deriving Repr, DecidableEq, Inhabited

/-! ## Options -/

/-- The option that every command has. -/
def helpSwitch : Switch := ⟨"help", ["--help"], false⟩

/-- The options in front of a command. -/
def programSwitches : List Switch :=
  [⟨"version", ["--version", "-V"], false⟩, helpSwitch]

/-- The options of an analysis. -/
def analyzeSwitches : List Switch :=
  [⟨"language", ["--language", "-l"], true⟩, ⟨"analyzer", ["--analyzer", "-a"], true⟩,
    ⟨"min-severity", ["--min-severity"], true⟩,
    ⟨"no-cross-language", ["--no-cross-language"], false⟩,
    ⟨"no-contracts", ["--no-contracts"], false⟩, ⟨"graph", ["--graph"], false⟩,
    ⟨"cross-references", ["--cross-references"], false⟩,
    ⟨"update-index", ["--update-index"], false⟩, ⟨"json", ["--json"], false⟩,
    ⟨"output", ["--output", "-o"], true⟩, ⟨"verbose", ["--verbose"], false⟩, helpSwitch]

/-- The options of the report on runtimes. -/
def runtimesSwitches : List Switch :=
  [⟨"json", ["--json"], false⟩, helpSwitch]

/-- The options for saving settings. -/
def setRuntimeSwitches : List Switch :=
  [⟨"path", ["--path", "-p"], true⟩, ⟨"analyzer", ["--analyzer"], true⟩,
    ⟨"disable", ["--disable"], false⟩, ⟨"enable", ["--enable"], false⟩, helpSwitch]

/-- The options of an export. -/
def graphSwitches : List Switch :=
  [⟨"format", ["--format", "-f"], true⟩, ⟨"output", ["--output", "-o"], true⟩,
    ⟨"focus", ["--focus"], true⟩, ⟨"verbose", ["--verbose"], false⟩, helpSwitch]

/-! ## Reading commands -/

/-- The one argument of a command. -/
def onlyArgument (name : String) (w : Words) : Except Misuse String :=
  match w.arguments with
  | [] => .error (.missingArgument name)
  | [word] => .ok word
  | _ :: word :: _ => .error (.unexpectedArgument word)

/-- A command that takes no arguments. -/
def noArguments (w : Words) : Except Misuse Unit :=
  match w.arguments with
  | [] => .ok ()
  | word :: _ => .error (.unexpectedArgument word)

/-- An analysis. -/
def analyzeOf (w : Words) : Except Misuse Command := do
  return .analyze
    { path := ← onlyArgument "PATH" w
      languages := w.all "language"
      analyzers := w.all "analyzer"
      minSeverity := w.last? "min-severity"
      crossLanguage := !w.has "no-cross-language"
      contracts := !w.has "no-contracts"
      graph := w.has "graph"
      references := w.has "cross-references"
      index := w.has "update-index"
      json := w.has "json"
      output := w.last? "output" }

/-- The report on runtimes. -/
def runtimesOf (w : Words) : Except Misuse Command := do
  noArguments w
  return .runtimes (w.has "json")

/-- Saving settings. -/
def setRuntimeOf (w : Words) : Except Misuse Command := do
  return .setRuntime
    { runtime := ← onlyArgument "RUNTIME" w
      path := w.last? "path"
      analyzer := w.last? "analyzer"
      disable := w.has "disable"
      enable := w.has "enable" }

/-- An export. -/
def graphOf (w : Words) : Except Misuse Command := do
  return .graph
    { path := ← onlyArgument "PATH" w
      format := (w.last? "format").getD "html"
      output := w.last? "output"
      focus := (w.last? "focus").getD "" }

/-- The options of each command, and how it is read. -/
def commands : List (String × List Switch × (Words → Except Misuse Command)) :=
  [("analyze", analyzeSwitches, analyzeOf), ("runtimes", runtimesSwitches, runtimesOf),
    ("set-runtime", setRuntimeSwitches, setRuntimeOf), ("graph", graphSwitches, graphOf)]

/-- A command by its name and the words after it; a call for help wins over what is missing. -/
def commandOf (name : String) (words : List String) : Except Misuse Command := do
  match commands.lookup name with
  | none => throw (.noSuchCommand name)
  | some (switches, read) =>
    let w ← readWords switches false words
    if w.has "help" then return .help
    read w

/-- The command that words ask for.  Of help and version in front of a command, the first wins, also
over the command. -/
def Command.ofWords (words : List String) : Except Misuse Command := do
  let w ← readWords programSwitches true words
  match w.options.head?.map (·.1), w.arguments with
  | some "version", _ => return .version
  | some _, _ => return .help
  | none, [] => throw .missingCommand
  | none, name :: rest => commandOf name rest

end Console
end CrossAudit
