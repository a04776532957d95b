import CrossAudit.Adapter.Registry
import CrossAudit.Config.Settings
import CrossAudit.Json.Display
import CrossAudit.Launcher.Machine
import CrossAudit.Launcher.Runtime
import CrossAudit.Workspace

/-!
# Detection of runtimes

An external runtime is looked for at the path that its settings give, then where the machine finds
its executable, then at well-known places.  The first candidate that tells its version is taken;
none is asked twice.  A runtime is usable if it is also new enough and its analyzer is there.
-/

namespace CrossAudit
namespace Detection

/-- What detection looks at. -/
structure Scene where
  machine : Machine
  workspace : Workspace
  timeout : Binary64

/-- A path in a setting: it has to be a text. -/
def pathOf (v : Json) : Except Fault PathName :=
  match v with
  | .str s => .ok (PathName.ofString s)
  | v => .error (.notPath v.shapeName)

/-- The path of a home directory; one that is all slashes is the root. -/
def homePath (home : String) : PathName :=
  if home.toList.all (· == '/') then ⟨"/", []⟩ else PathName.ofString home

/-- A path with a leading tilde, and the name of a user right behind it, replaced by a home
directory. -/
def expand (m : Machine) (p : PathName) : Except Fault PathName :=
  match p.root, p.components with
  | "", first :: rest =>
    match first.toList with
    | '~' :: user =>
      (m.homeOf (String.ofList user)).map fun home => (homePath home).join ⟨"", rest⟩
    | _ => .ok p
  | _, _ => .ok p

/-- The location that a setting gives. -/
def located (s : Scene) (v : Json) : Except Fault String := do
  return (← expand s.machine (← pathOf v)).toString

/-- Whether the analyzer is there, or is not needed. -/
def analyzerPresent (s : Scene) (spec : RuntimeSpec) (analyzer : Option Json) :
    Except Fault Bool :=
  if !spec.needsAnalyzer then .ok true
  else
    match analyzer.filter Json.holds with
    | none => .ok false
    | some a => do
      let spot ← (s.workspace.look (← located s a)).mapError .file
      return spot.isSome

/-! ## Candidates -/

/-- Where a runtime may be, and how each place was found. -/
def candidates (s : Scene) (spec : RuntimeSpec) (custom : Option Json) :
    Except Fault (List (String × String)) := do
  let own ← (custom.filter Json.holds).toList.mapM fun v => do
    return ("custom", ← located s v)
  let onPath := (s.machine.found.lookup spec.executable).toList.map fun p =>
    ("path", s.machine.resolve p)
  let known := (spec.wellKnownPaths.filter s.machine.executables.contains).map fun p =>
    ("well-known", p)
  return own ++ onPath ++ known

/-- The version that an executable tells.  An answer that does not match the pattern counts as one
whose version is unknown. -/
def versionOf? (s : Scene) (spec : RuntimeSpec) (path : String) : Except Fault (Option String) :=
  match s.machine.answerOf (path :: spec.versionArgs) with
  | .tells output errors 0 =>
    (spec.versionPattern (output ++ errors)).map fun found => found.getD (some "unknown")
  | .breaksOff f => .error f
  | _ => .ok none

/-- The first candidate that tells its version, unless asking one before it goes wrong, with what
was done to find out. -/
def search (s : Scene) (spec : RuntimeSpec) :
    List String → List (String × String) →
      List Event × Except Fault (Option (String × String × String))
  | _, [] => ([], .ok none)
  | tried, (source, path) :: rest =>
    if tried.contains path then search s spec tried rest
    else
      let event := Event.probe (path :: spec.versionArgs) s.timeout
      match versionOf? s spec path with
      | .error f => ([event], .error f)
      | .ok (some version) => ([event], .ok (some (source, path, version)))
      | .ok none =>
        let (events, found) := search s spec (path :: tried) rest
        (event :: events, found)

/-! ## Verdicts -/

/-- The wording for an analyzer that is not there. -/
def noAnalyzer (name : String) (analyzer : Option Json) : String :=
  name ++ " analyzer not found at '" ++ (analyzer.getD .null).display ++ "'; set [runtimes." ++
    name ++ "] analyzer in the config file"

/-- Whether a version is at least the one required; an unknown version is. -/
def isCompatible (version : String) (required : Option String) : Except Fault Bool :=
  match required.filter (· != "") with
  | some r =>
    if version == "unknown" then .ok true
    else do return decide (0 ≤ (← Version.compareChecked version r))
  | none => .ok true

/-- What is known of a runtime whose executable was found. -/
def judge (s : Scene) (spec : RuntimeSpec) (i : RuntimeInfo) (source path version : String) :
    Except Fault RuntimeInfo := do
  let i := { i with
    available := true, path := some path, version := some version, source := some source }
  if !(← isCompatible version spec.minVersion) then
    return { i with
      compatible := false
      error := some ("version " ++ version ++ " is older than required " ++
        spec.minVersion.getD "") }
  if ← analyzerPresent s spec i.analyzer then return i
  return { i with analyzerReady := false, error := some (noAnalyzer spec.name i.analyzer) }

/-- What is known of an external runtime, with what was done to find out. -/
def detect (s : Scene) (spec : RuntimeSpec) (settings : Config.RuntimeSettings) :
    List Event × Except Fault RuntimeInfo :=
  let i : RuntimeInfo :=
    { name := spec.name
      languages := spec.languages
      analyzer := (settings.analyzer.filter Json.holds).or (spec.defaultAnalyzer.map Json.str) }
  if settings.disabled then
    ([], .ok { i with
      enabled := false
      error := some ("disabled via " ++ Config.disableVariable spec.name) })
  else
    match candidates s spec settings.path with
    | .error f => ([], .error f)
    | .ok cs =>
      match search s spec [] cs with
      | (events, .error f) => (events, .error f)
      | (events, .ok (some (source, path, version))) => (events, judge s spec i source path version)
      | (events, .ok none) =>
        (events, .ok { i with
          error := some ("'" ++ spec.executable ++ "' not found (set " ++
            Config.pathVariable spec.name ++ ")") })

/-- What is known of a native runtime: it serves the languages that have an adapter. -/
def detectNative (m : Machine) (r : Registry) (name : String) (languages : List String) :
    RuntimeInfo :=
  let served := languages.filter r.contains
  { name := name
    languages := if served.isEmpty then languages else served
    native := true
    available := !served.isEmpty
    version := m.parserVersion
    source := some "native"
    error := if served.isEmpty then some "no adapter registered" else none }

end Detection
end CrossAudit
