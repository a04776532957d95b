import CrossAudit.Launcher.Detection

/-!
# The launcher

A launcher knows the runtimes of a machine, which it detects when they are first asked for, keeps
books on the processes that it starts, and notes what it does.  Detection can fail on a malformed
configuration; it is then tried again the next time.
-/

namespace CrossAudit

/-- The books of a launcher. -/
structure LaunchStats where
  spawned : Nat := 0
  succeeded : Nat := 0
  failed : Nat := 0
  timeouts : Nat := 0
  retries : Nat := 0
  killed : Nat := 0
  deriving Repr, DecidableEq, Inhabited

/-- Where settings of runtimes come from. -/
inductive SettingsSource where
  | given (table : List (String × Config.RuntimeSettings))
  | configured (file : Config.File) (env : Config.Variables)
  deriving Inhabited

/-- The settings of a runtime. -/
def SettingsSource.load (s : SettingsSource) (runtime : String) :
    Except Fault Config.RuntimeSettings :=
  match s with
  | .given table => .ok ((table.lookup runtime).getD {})
  | .configured file env => Config.runtimeSettings file env runtime

/-- A launcher. -/
structure Launcher where
  registry : Registry := Registry.standard
  specs : List (String × RuntimeSpec) := []
  settings : SettingsSource := .configured .absent []
  machine : Machine := {}
  workspace : Workspace := {}
  probeTimeout : Binary64 := Config.probeTimeout
  analysisTimeout : Binary64 := Config.analysisTimeout
  detected : Option (List (String × RuntimeInfo)) := none
  stats : LaunchStats := {}
  live : List Behaviour := []
  events : List Event := []
  deriving Inhabited

namespace Launcher

/-- Specifications by name. -/
def specTable (specs : List RuntimeSpec) : List (String × RuntimeSpec) :=
  Assoc.ofPairs (specs.map fun s => (s.name, s))

/-- What detection looks at. -/
def scene (l : Launcher) : Detection.Scene :=
  ⟨l.machine, l.workspace, l.probeTimeout⟩

/-- Notes events. -/
def note (l : Launcher) (events : List Event) : Launcher :=
  { l with events := l.events ++ events }

/-- Changes the books. -/
def book (l : Launcher) (f : LaunchStats → LaunchStats) : Launcher :=
  { l with stats := f l.stats }

/-! ## Detection -/

/-- The native runtimes. -/
def nativeRuntimes (l : Launcher) : List (String × RuntimeInfo) :=
  RuntimeSpec.native.map fun (name, languages) =>
    (name, Detection.detectNative l.machine l.registry name languages)

/-- What is known of an external runtime, with what was done to find out. -/
def detectSpec (l : Launcher) (spec : RuntimeSpec) : List Event × Except Fault RuntimeInfo :=
  match l.settings.load spec.name with
  | .error f => ([], .error f)
  | .ok s => Detection.detect l.scene spec s

/-- Detects runtimes in order, after those already known, up to the first fault. -/
def detectAll (l : Launcher) :
    List RuntimeSpec → List (String × RuntimeInfo) →
      List Event × Except Fault (List (String × RuntimeInfo))
  | [], known => ([], .ok known)
  | spec :: rest, known =>
    match l.detectSpec spec with
    | (events, .error f) => (events, .error f)
    | (events, .ok i) =>
      let (more, result) := detectAll l rest (Assoc.set spec.name i known)
      (events ++ more, result)

/-- Detects all runtimes anew. -/
def detect (l : Launcher) : Except Fault (List (String × RuntimeInfo)) × Launcher :=
  match l.detectAll (l.specs.map (·.2)) l.nativeRuntimes with
  | (events, .ok known) => (.ok known, { l.note events with detected := some known })
  | (events, .error f) => (.error f, l.note events)

/-- The runtimes, detected if they are not known yet. -/
def runtimes (l : Launcher) : Except Fault (List (String × RuntimeInfo)) × Launcher :=
  match l.detected with
  | some known => (.ok known, l)
  | none => l.detect

/-- Answers a question about the runtimes. -/
def ask {α : Type} (l : Launcher) (f : List (String × RuntimeInfo) → α) :
    Except Fault α × Launcher :=
  let (known, l) := l.runtimes
  (known.map f, l)

/-! ## Questions -/

/-- The runtime that analyzes a language. -/
def runtimeFor (l : Launcher) (language : String) : String :=
  match l.specs.find? fun s => s.2.languages.contains language with
  | some s => s.2.name
  | none => Language.runtimeOf language

/-- Whether a runtime is native. -/
def isNative (runtime : String) : Bool :=
  RuntimeSpec.native.any fun n => n.1 == runtime

/-- Whether a runtime can be used. -/
def hasRuntime (l : Launcher) (name : String) : Except Fault Bool × Launcher :=
  l.ask fun known => ((known.lookup name).map RuntimeInfo.usable).getD false

/-- What is known of a runtime. -/
def runtime? (l : Launcher) (name : String) : Except Fault (Option RuntimeInfo) × Launcher :=
  l.ask fun known => known.lookup name

/-- Whether a language can be analyzed. -/
def canAnalyze (l : Launcher) (language : String) : Except Fault Bool × Launcher :=
  let runtime := l.runtimeFor language
  if isNative runtime then (.ok (l.registry.contains language), l) else l.hasRuntime runtime

/-- Why a language cannot be analyzed. -/
def unavailableReason (l : Launcher) (language : String) : Except Fault String × Launcher :=
  let runtime := l.runtimeFor language
  l.ask fun known =>
    match known.lookup runtime with
    | none => "no runtime known for language '" ++ language ++ "'"
    | some i => (i.error.filter (· != "")).getD ("runtime '" ++ runtime ++ "' unavailable")

/-- What to do about a runtime that is not usable, by what is known so far. -/
def suggestion (l : Launcher) (name : String) : String :=
  match RuntimeSpec.nativePackages.lookup name, l.specs.lookup name with
  | some packages, _ => "pip install " ++ packages
  | none, none => "No runtime definition for '" ++ name ++ "'"
  | none, some spec =>
    let info := (l.detected.getD []).lookup name
    let fails (p : RuntimeInfo → Bool) : Bool := info.any fun i => !p i
    if fails RuntimeInfo.enabled then
      "Unset " ++ Config.disableVariable name ++ " to enable the " ++ name ++ " runtime"
    else if fails RuntimeInfo.compatible then
      "Upgrade " ++ name ++ " to " ++ spec.minVersion.getD "None" ++ " or newer"
    else if fails RuntimeInfo.analyzerReady then
      "Run: polyglot-auditor set-runtime " ++ name ++ " --analyzer <path to the " ++ name ++
        " analyzer>"
    else if spec.installHint != "" then spec.installHint
    else "Install '" ++ spec.executable ++ "' or set " ++ Config.pathVariable name

/-- The entry of a runtime in the report. -/
def reportEntry (l : Launcher) (i : RuntimeInfo) : Json :=
  .obj (i.members ++
    [("usable", .bool i.usable),
      ("min_version", .ofText? ((l.specs.lookup i.name).bind (·.minVersion)))] ++
    (if i.usable then [] else [("suggestion", .str (l.suggestion i.name))]))

/-- The report on all runtimes. -/
def report (l : Launcher) : Except Fault (List Json) × Launcher :=
  match l.runtimes with
  | (.ok known, l) => (.ok (known.map fun k => l.reportEntry k.2), l)
  | (.error f, l) => (.error f, l)

/-- The books as a document. -/
def statsJson (l : Launcher) : Except Fault Json × Launcher :=
  let s := l.stats
  let active := l.live.length
  l.ask fun known =>
    .obj [("spawned", .ofNat s.spawned), ("succeeded", .ofNat s.succeeded),
      ("failed", .ofNat s.failed), ("timeouts", .ofNat s.timeouts), ("retries", .ofNat s.retries),
      ("killed", .ofNat s.killed), ("active_processes", .ofNat active),
      ("runtimes_total", .ofNat known.length),
      ("runtimes_available", .ofNat (known.countP fun k => k.2.usable))]

/-! ## Killing -/

/-- Kills every live process; those that cannot be killed are not counted. -/
def killAll (l : Launcher) : Nat × Launcher :=
  let killed := l.live.countP fun b => b.killError.isNone
  (killed,
    (l.note (List.replicate killed .kill ++ [.killAll killed])).book fun s =>
      { s with killed := s.killed + killed })

end Launcher
end CrossAudit
