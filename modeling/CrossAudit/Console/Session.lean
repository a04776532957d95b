import CrossAudit.Audit.Run
import CrossAudit.Console.Command
import CrossAudit.Console.Presentation
import CrossAudit.Graph.Dot
import CrossAudit.Graph.Health
import CrossAudit.Graph.Html
import CrossAudit.Index
import CrossAudit.Json.Printer

/-!
# Sessions

A session is what commands work on and leave behind: the project and the machine, the
configuration, the files that were written, and the index of each project.
-/

namespace CrossAudit
namespace Console

/-- The state between commands.  Indexes are kept by the directory they lie in. -/
structure Session where
  launcher : Launcher := {}
  config : Config.File := .absent
  environment : Config.Variables := []
  base : String := ".polyglot-auditor"
  directory : String := ""
  exports : List (String × String) := []
  indexes : List (String × Index) := []
  deriving Inhabited

namespace Session

/-! ## Parts -/

/-- The location of the configuration file. -/
def configFile (s : Session) : String :=
  s.base ++ "/config.toml"

/-- Where the settings of runtimes come from now. -/
def source (s : Session) : SettingsSource :=
  match s.launcher.settings with
  | .given table => .given table
  | .configured _ env => .configured s.config env

/-- A launcher that has not done anything yet. -/
def fresh (s : Session) : Launcher :=
  { s.launcher with settings := s.source, detected := none, stats := {}, live := [], events := [] }

/-- The session after a launcher has been used: what is left is the machine. -/
def keep (s : Session) (l : Launcher) : Session :=
  { s with launcher := { s.launcher with machine := l.machine } }

/-- Whether a command may work on a directory. -/
def hasDirectory (s : Session) (path : String) : Bool :=
  path != "" && s.launcher.workspace.hasDirectory path

/-- Writes a file, which is kept under its place from the workspace. -/
def write (s : Session) (path text : String) : Except Fault Session := do
  let w ← s.launcher.workspace.write path text
  return { s with
    launcher := { s.launcher with workspace := w }
    exports := Assoc.set (Text.join "/" (Workspace.locate path)) text s.exports }

/-! ## Projects -/

/-- The components of the absolute path that a path stands for. -/
def resolve (s : Session) (path : String) : List String :=
  let whole := (PathName.ofString s.directory).join (PathName.ofString path)
  Workspace.resolveFrom [] whole.components

/-- The name of the directory that a path stands for; the root of all paths has none. -/
def directoryName (s : Session) (path : String) : String :=
  (s.resolve path).getLast?.getD ""

/-! ## Indexes -/

/-- The name that the index of a project goes by. -/
def indexName (s : Session) (root : String) : String :=
  if s.directoryName root == "" then "root" else s.directoryName root

/-- The directory of a project's index, named after the project's directory. -/
def indexDirectory (s : Session) (root : String) : String :=
  s.base ++ "/index/" ++ s.indexName root

/-- The index in a directory. -/
def indexAt (s : Session) (place : String) : Index :=
  (s.indexes.lookup place).getD {}

/-- The archive of an index. -/
def archive (x : Index) : Audit.Archive Index :=
  ⟨x, fun x entities references =>
    (x.update entities references).mapError Index.Refusal.message⟩

/-- Opens the index of a project for a run that wants it. -/
def openIndex (s : Session) (root : String) (wanted : Bool) : Option (Audit.Archive Index) :=
  if wanted then some (archive (s.indexAt (s.indexDirectory root))) else none

/-- Keeps the index of a project. -/
def closeIndex (s : Session) (root : String) (a : Option (Audit.Archive Index)) : Session :=
  match a with
  | none => s
  | some a => { s with indexes := Assoc.set (s.indexDirectory root) a.state s.indexes }

/-! ## Running -/

/-- The message on a failed search for files. -/
def searchFailed (f : Discovery.Failure) : Reply :=
  { output := [.markup ("[red]❌ " ++ f.message ++ "[/red]")], code := 2 }

/-- Runs an audit and goes on with its report. -/
def audit (s : Session) (o : Audit.Options)
    (found : Except Discovery.Failure (List String)) (a : Option (Audit.Archive Index))
    (root : String) (next : Report → Session → Reply × Session) : Reply × Session :=
  let e := Audit.runAfter o found {} a s.fresh
  let s := (s.keep e.launcher).closeIndex root e.archive
  match e.outcome with
  | .error (.discovery f) => (searchFailed f, s)
  | .error (.fault f) => (.broken f, s)
  | .ok outcome => next outcome.report s

/-! ## Analysis -/

/-- The severity that is asked for, or else the configured one, in lower case. -/
def severityOf (asked : Option String) (configured : Json) : Except Fault String :=
  match asked.filter (· != ""), configured with
  | some t, _ | none, .str t => .ok (Text.lower t)
  | none, v => .error (.noAttribute v.shapeName "lower")

/-- The options of a run, and the patterns of files that it leaves out, from a request and the
settings.  The setting for the number of tasks at a time has to be a number, though results do not
depend on it. -/
def optionsOf (r : AnalyzeRequest) (settings : List (String × Json)) (severity : String) :
    Except Fault (Audit.Options × List Json) := do
  let setting (key : String) : Json := (settings.lookup key).getD .null
  let excludes ← (setting "exclude").elements
  discard <| (setting "max_concurrency").toInteger
  let timeout ← (setting "timeout").toNumber
  return (
    { languages := r.languages
      analyzers := if r.analyzers.isEmpty then setting "analyzers" else .ofTexts r.analyzers
      minSeverity := severity
      crossLanguage := r.crossLanguage
      contracts := r.contracts
      references := r.references
      graph := r.graph
      index := r.index
      excludes := excludes.filterMap Json.str?
      timeout := .real timeout },
    excludes)

/-- Searches for the files of a project.  A pattern that is no text fails the search as soon as
there is a file to hold it against. -/
def search (w : Workspace) (root : String) (excludes : List Json) :
    Except Discovery.Failure (List String) :=
  match excludes.find? fun e => e.str?.isNone with
  | none => Discovery.search w root [] (excludes.filterMap Json.str?)
  | some e => do
    let files ← Discovery.search w root [] []
    if files.isEmpty then return []
    throw (.failed (normalPath root)
      ("expected str, bytes or os.PathLike object, not " ++ e.shapeName))

/-- Writes the report where it is wanted, and shows it. -/
def deliver (r : AnalyzeRequest) (report : Report) (s : Session) : Reply × Session :=
  let verdict : Reply := { code := if report.hasCritical then 1 else 0 }
  let shown := if r.json then verdict.after [.document report.toJson] else showReport report verdict
  match r.output.map normalPath with
  | none => (shown, s)
  | some path =>
    match s.write path report.toJson.pretty with
    | .error f => (.broken f, s)
    | .ok s => (shown.after [.markup ("Wrote results to " ++ path)], s)

/-- Analyzes a project. -/
def analyze (s : Session) (r : AnalyzeRequest) : Reply × Session :=
  match configured s r with
  | .error f => (.broken f, s)
  | .ok (settings, severity) =>
    if (Severity.ladder.lookup severity).isNone then (.misused, s)
    else
      match optionsOf r settings severity with
      | .error f => (.broken f, s)
      | .ok (o, excludes) =>
        s.audit o (search s.launcher.workspace r.path excludes) (s.openIndex r.path r.index) r.path
          (deliver r)
where
  /-- The settings, and the severity that is asked for. -/
  configured (s : Session) (r : AnalyzeRequest) :
      Except Fault (List (String × Json) × String) := do
    let settings ← Config.analysis s.config
    return (settings,
      ← severityOf r.minSeverity ((settings.lookup "min_severity").getD .null))

/-! ## Runtimes -/

/-- Shows the runtimes. -/
def runtimes (s : Session) (json : Bool) : Reply × Session :=
  if json then
    match s.fresh.report with
    | (.ok entries, _) => ({ output := [.document (.arr entries)] }, s)
    | (.error f, _) => (.broken f, s)
  else
    match s.fresh.runtimes with
    | (.ok known, l) => ({ output := [runtimeTable l known] }, s)
    | (.error f, _) => (.broken f, s)

/-- The message on a runtime that is not known. -/
def unknownRuntime (name : String) (known : List String) : Output :=
  .markup ("[red]❌ Unknown runtime '" ++ name ++ "'. Choose from: " ++ Text.join ", " known ++
    "[/red]")

/-- The switch that a request sets, if it sets one. -/
def switchOf (r : RuntimeRequest) : Option Bool :=
  if r.disable then some true else if r.enable then some false else none

/-- A value in a message, or something else if it does not hold. -/
def shownOr (v : Option Json) (fallback : String) : String :=
  ((v.filter Json.holds).map Json.display).getD fallback

/-- The lines on settings that were saved. -/
def savedLines (s : Session) (name : String) (t : Config.RuntimeSettings) : List Output :=
  [.markup ("[green]✅ Saved " ++ name ++ " settings to " ++ s.configFile ++ "[/green]"),
    .line ("  Path:     " ++ shownOr t.path "(PATH lookup)"),
    .line ("  Analyzer: " ++ shownOr t.analyzer "(default)"),
    .line ("  Disabled: " ++ (Json.bool t.disabled).display)]

/-- Saves settings of a runtime and shows what holds now. -/
def setRuntime (s : Session) (r : RuntimeRequest) : Reply × Session :=
  let name := Text.strip (Text.lower r.runtime)
  let known := s.launcher.specs.map (·.1)
  let switch := switchOf r
  if !known.contains name then ({ output := [unknownRuntime name known], code := 1 }, s)
  else if r.enable && r.disable then (.misused, s)
  else if r.path.isNone && r.analyzer.isNone && switch.isNone then (.misused, s)
  else
    let (file, saved) := Config.save s.config name
      { path := r.path, disabled := switch, analyzer := r.analyzer }
    let s := { s with config := file }
    match saved >>= fun _ => Config.runtimeSettings file s.environment name with
    | .error f => (.broken f, s)
    | .ok t => ({ output := s.savedLines name t }, s)

/-! ## Graph -/

/-- The options of a run that only builds a graph. -/
def graphOptions : Audit.Options :=
  { crossLanguage := false, graph := true, analyzers := .arr [] }

/-- The file that a graph is written to, and how its location is shown. -/
def graphFile (s : Session) (r : GraphRequest) (format : String) : String × String :=
  match r.output.map normalPath with
  | some path => (path, path)
  | none =>
    let name := s.directoryName r.path ++ "_graph." ++ format
    (name, s.directory ++ "/" ++ name)

/-- The figures of a graph. -/
def graphFigures (g : Graph) : String :=
  let m := g.metrics
  s!"Nodes: {m.nodes} | Edges: {m.edges} | Cycles: {m.cycles} | Health: {g.health.score}/100"

/-- Writes the graph of a report. -/
def deliverGraph (r : GraphRequest) (format : String) (report : Report) (s : Session) :
    Reply × Session :=
  match report.graph with
  | none =>
    let status := ((report.statusOf? .dependencyGraph).map FeatureStatus.name).getD "None"
    ({ output := [.markup ("[red]❌ Dependency graph " ++ status ++ "[/red]")], code := 1 }, s)
  | some g =>
    let text := if format == "html" then Graph.Html.render g r.focus else Graph.Dot.render g r.focus
    let (path, shown) := s.graphFile r format
    match s.write path text with
    | .error f => (.broken f, s)
    | .ok s => ({ output := [.line ("Exported graph to " ++ shown), .line (graphFigures g)] }, s)

/-- Exports the graph of a project. -/
def exportGraph (s : Session) (r : GraphRequest) : Reply × Session :=
  let format := Text.lower r.format
  if format != "html" && format != "dot" then (.misused, s)
  else
    s.audit graphOptions (Discovery.search s.launcher.workspace r.path [] []) none r.path
      (deliverGraph r format)

/-! ## Commands -/

/-- Checks the file that a command is to write and the directory that it is to work on, and goes on
if nothing is wrong with them. -/
def checked (s : Session) (output : Option String) (path : String) (next : Reply × Session) :
    Reply × Session :=
  if output.any Workspace.holdsNull || Workspace.holdsNull path then (.broken .nullByte, s)
  else if s.hasDirectory path then next
  else (.misused, s)

/-- Runs a command. -/
def perform (s : Session) (c : Command) : Reply × Session :=
  match c with
  | .help => ({}, s)
  | .version => ({ output := [.line ("Polyglot Auditor v" ++ Config.programVersion)] }, s)
  | .analyze r => s.checked r.output r.path (s.analyze r)
  | .runtimes json => s.runtimes json
  | .setRuntime r => s.setRuntime r
  | .graph r => s.checked r.output r.path (s.exportGraph r)

/-- Runs the command that words ask for. -/
def run (s : Session) (words : List String) : Reply × Session :=
  match Command.ofWords words with
  | .error _ => (.misused, s)
  | .ok c => s.perform c

end Session
end Console
end CrossAudit
