import CrossAudit.Config
import CrossAudit.Text.Lines
import CrossAudit.Toml.Document
import CrossAudit.Toml.Printer

/-!
# Settings

The configuration is a file that is read anew each time; a file that is missing or malformed counts
as empty, but bytes that are no text keep the program from going on.  Its `analysis` table overrides
the defaults of an analysis, and its `runtimes` table has a table of settings for each runtime.
Environment variables win over the path and the switch of a runtime.
-/

namespace CrossAudit
namespace Config

/-- What stands in the place of the configuration file: nothing that can be opened, a text, or
something that reading breaks off at, such as bytes that are no text. -/
inductive File where
  | absent
  | text (content : String)
  | garbled (fault : Fault)
  deriving Repr, DecidableEq, Inhabited

/-- The configuration in a file. -/
def read (file : File) : Except Fault Toml.Table :=
  match file with
  | .absent => .ok []
  | .garbled f => .error f
  | .text text =>
    match Toml.parse (Text.unifyFeeds text) with
    | .ok table => .ok table
    | .error .malformed => .ok []
    | .error (.fault f) => .error f

/-- The configuration in a file as a document. -/
def document (file : File) : Except Fault Json := do
  return (Toml.Value.table (← read file)).toJson

/-! ## Analysis -/

/-- The settings of an analysis unless the configuration has others. -/
def analysisDefaults : List (String × Json) :=
  [("analyzers", .ofTexts defaultAnalyzers), ("min_severity", .str "suggestion"),
    ("timeout", .real analysisTimeout), ("max_concurrency", .int maxConcurrency),
    ("exclude", .arr [])]

/-- Overrides a setting; a name that is not known is ignored. -/
def override (settings : List (String × Json)) (m : String × Json) : List (String × Json) :=
  settings.map fun s => if s.1 == m.1 then (s.1, m.2) else s

/-- The settings of an analysis. -/
def analysis (file : File) : Except Fault (List (String × Json)) := do
  match (← document file).get? "analysis" with
  | some (.obj ms) => return ms.foldl override analysisDefaults
  | _ => return analysisDefaults

/-! ## Runtimes -/

/-- The settings of a runtime.  Where a configuration gives a path or an analyzer that is no text,
it is kept as it is. -/
structure RuntimeSettings where
  path : Option Json := none
  disabled : Bool := false
  analyzer : Option Json := none
  deriving Repr, Inhabited

namespace RuntimeSettings

/-- Settings as a document. -/
def toJson (s : RuntimeSettings) : Json :=
  .obj [("path", s.path.getD .null), ("disabled", .bool s.disabled),
    ("analyzer", s.analyzer.getD .null)]

end RuntimeSettings

/-- The environment variables. -/
abbrev Variables := List (String × String)

/-- A member that holds. -/
def held (table : Toml.Value) (key : String) : Except Fault (Option Json) := do
  return ((← table.member key).map Toml.Value.toJson).filter Json.holds

/-- The table of a runtime. -/
def runtimeTable (config : Toml.Table) (runtime : String) : Toml.Value :=
  match config.lookup "runtimes" with
  | some (.table ms) => (ms.lookup runtime).getD (.table [])
  | _ => .table []

/-- The settings of a runtime. -/
def runtimeSettings (file : File) (env : Variables) (runtime : String) :
    Except Fault RuntimeSettings := do
  let table := runtimeTable (← read file) runtime
  let path ← held table "path"
  let disabled := ((← table.member "disabled").map Toml.Value.holds).getD false
  let analyzer ← held table "analyzer"
  let envPath := (env.lookup (pathVariable runtime)).filter (· != "")
  let envDisabled := (env.lookup (disableVariable runtime)).map fun s =>
    Text.lower (Text.strip s) == "true"
  return {
    path := (envPath.map Json.str).or path
    disabled := envDisabled.getD disabled
    analyzer := analyzer }

/-! ## Saving -/

/-- A change to the settings of a runtime; what is not given stays. -/
structure Change where
  path : Option String := none
  disabled : Option Bool := none
  analyzer : Option String := none
  deriving Repr, DecidableEq, Inhabited

/-- The members that a change sets. -/
def Change.members (c : Change) : Toml.Table :=
  (c.path.map fun s => ("path", Toml.Value.text s)).toList ++
  (c.disabled.map fun b => ("disabled", Toml.Value.truth b)).toList ++
  (c.analyzer.map fun s => ("analyzer", Toml.Value.text s)).toList

/-- Sets members of a table. -/
def setAll (table : Toml.Value) (ms : Toml.Table) : Except Fault Toml.Value :=
  match table, ms with
  | table, [] => .ok table
  | .table old, ms => .ok (.table (ms.foldl (fun t m => Assoc.set m.1 m.2 t) old))
  | .array _, _ => .error .listPositions
  | v, _ => .error (.notAssignable v.shapeName)

/-- The configuration with a change to the settings of a runtime. -/
def change (config : Toml.Table) (runtime : String) (c : Change) : Except Fault Toml.Table :=
  match (config.lookup "runtimes").getD (.table []) with
  | .table ms => do
    let table ← setAll ((ms.lookup runtime).getD (.table [])) c.members
    return Assoc.set "runtimes" (.table (Assoc.set runtime table ms)) config
  | v => .error (.noAttribute v.shapeName "setdefault")

/-- Saves a change to the settings of a runtime: the file afterwards, and what went wrong.  The file
stays as it is if it cannot be read or changed, and is left empty if the configuration cannot be
written. -/
def save (file : File) (runtime : String) (c : Change) : File × Except Fault Unit :=
  match read file >>= fun config => change config runtime c with
  | .error f => (file, .error f)
  | .ok config =>
    match Toml.render config with
    | .error f => (.text "", .error f)
    | .ok text => (.text text, .ok ())

end Config
end CrossAudit
