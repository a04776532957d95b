import CrossAudit.Launcher.Basic
import CrossAudit.Snapshot

/-!
# Reading a machine snapshot

A snapshot of a machine is a document that says which executables are found, how they answer, how
the processes that are started behave, and how the program is configured.
-/

namespace CrossAudit
namespace Snapshot

/-- The directory of the program's own files. -/
def baseDirectory (j : Json) : String :=
  j.textAt "base" ".polyglot-auditor"

/-- The members of an object that are texts. -/
def textsByName (j : Json) : List (String × String) :=
  j.members.filterMap fun m => m.2.str?.map fun s => (m.1, s)

/-- A system error, written as its number and its text. -/
def systemError? (j : Json) : Option SystemError :=
  match j with
  | .arr [.int n, .str s] => some ⟨n, s⟩
  | _ => none

/-- How an executable answers. -/
def answerOf (j : Json) : ProbeAnswer :=
  if j.boolAt "timeout" false then .silent
  else
    match (j.get? "oserror").bind systemError? with
    | some e => .fails e
    | none => .tells (j.textAt "stdout" "") (j.textAt "stderr" "") (j.intAt "returncode" 0)

/-- What comes of a start. -/
def startOf (j : Json) : Start :=
  match (j.get? "oserror").bind systemError? with
  | some e => .refused e
  | none =>
    .running
      { output := j.textAt "stdout" "", errors := j.textAt "stderr" ""
        code := j.intAt "returncode" 0, timesOut := j.boolAt "timeout" false
        cancels := j.boolAt "cancel" false, killsAll := j.boolAt "kill_all" false
        killError := (j.get? "kill_error").bind systemError? }

/-- A specification; a version pattern that starts with `go` asks for the mark, and others are not
told apart. -/
def specOf (j : Json) : RuntimeSpec :=
  { name := j.textAt "name" ""
    languages := j.textsAt "languages"
    executable := j.textAt "executable" ""
    versionArgs := (j.textsAt? "version_args").getD ["--version"]
    versionPattern :=
      if Text.startsWith (j.textAt "version_pattern" "") "go" then
        Version.Announcement.goMarked.pattern
      else Version.Announcement.plain.pattern
    wellKnownPaths := j.textsAt "well_known_paths"
    analyzeArgs := j.textsAt "analyze_args"
    defaultAnalyzer := j.textAt? "default_analyzer"
    minVersion := j.textAt? "min_version"
    installHint := j.textAt "install_hint" "" }

/-- The settings of a runtime. -/
def settingsOf (j : Json) : Config.RuntimeSettings :=
  { path := (j.get? "path").filter Json.holds
    disabled := ((j.get? "disabled").map Json.holds).getD false
    analyzer := (j.get? "analyzer").filter Json.holds }

/-- The configuration file of a snapshot. -/
def configOf (j : Json) : Config.File :=
  ((j.textAt? "toml").map .text).getD .absent

/-- The environment variables of a snapshot. -/
def variablesOf (j : Json) : Config.Variables :=
  ((j.get? "env").map textsByName).getD []

/-- Where settings come from: a table, or the configuration. -/
def sourceOf (j : Json) : SettingsSource :=
  match j.get? "settings" with
  | some (.obj ms) => .given (ms.map fun m => (m.1, settingsOf m.2))
  | _ => .configured (configOf j) (variablesOf j)

/-- The machine of a snapshot.  It is a simulated one: an executable answers by its path, whatever
it is asked. -/
def machineOf (j : Json) : Machine :=
  let answers := (j.membersAt "probes").map fun m => (m.1, answerOf m.2)
  { found := ((j.get? "which").map textsByName).getD []
    links := ((j.get? "realpath").map textsByName).getD []
    executables := j.textsAt "executables"
    answers := fun command => (answers.lookup (command.headD "")).getD (.fails .noSuchFile)
    starts := (j.itemsAt "processes").map startOf
    homes := ("", j.textAt "home" "") :: ((j.get? "homes").map textsByName).getD [("root", "/root")]
    simulated := true
    parserVersion :=
      match j.get? "tree_sitter_version" with
      | some .null => none
      | some v => v.str?
      | none => some "0.25.0" }

/-- The registry of a snapshot. -/
def registryOf (j : Json) : Registry :=
  match j.textsAt? "adapters" with
  | some names => ⟨names.filterMap Adapter.ofLanguage?⟩
  | none => Registry.standard

/-- The workspace with the files that a snapshot adds. -/
def addFiles (j : Json) (w : Workspace) : Workspace :=
  (j.textsAt "exists").foldl (fun w path => w.writeText path "") w

/-- The launcher of a snapshot. -/
def launcher (j : Json) (w : Workspace) : Launcher :=
  { registry := registryOf j
    specs := Launcher.specTable (match j.get? "specs" with
      | some (.arr xs) => xs.map specOf
      | _ => RuntimeSpec.standard (baseDirectory j))
    settings := sourceOf j
    machine := machineOf j
    workspace := addFiles j w
    probeTimeout := j.numberAt "probe_timeout" Config.probeTimeout
    analysisTimeout := j.numberAt "analysis_timeout" Config.analysisTimeout }

/-- A launcher whose machine was changed; processes that are still to come stay unless the snapshot
lists others. -/
def changeMachine (j : Json) (change : Json) (l : Launcher) : Launcher :=
  let machine := machineOf j
  { l with
    settings := sourceOf j
    workspace := addFiles change l.workspace
    machine :=
      if (change.get? "processes").isSome then machine
      else { machine with starts := l.machine.starts } }

end Snapshot
end CrossAudit
