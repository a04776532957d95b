import CrossAudit.Json.Basic
import CrossAudit.Launcher.Version
import CrossAudit.Text.Search

/-!
# Runtimes

A native runtime analyzes its languages in process.  An external one is a program that has to be
found on the machine, asked for its version, and given an analyzer to run; a *specification* says
how.
-/

namespace CrossAudit

/-- How to find, check and call an external runtime. -/
structure RuntimeSpec where
  name : String
  languages : List String
  executable : String
  versionArgs : List String := ["--version"]
  versionPattern : Version.Pattern := Version.Announcement.plain.pattern
  wellKnownPaths : List String := []
  analyzeArgs : List String := []
  defaultAnalyzer : Option String := none
  minVersion : Option String := none
  installHint : String := ""
  deriving Inhabited

/-- What is known about a runtime. -/
structure RuntimeInfo where
  name : String
  languages : List String
  native : Bool := false
  available : Bool := false
  enabled : Bool := true
  compatible : Bool := true
  path : Option String := none
  version : Option String := none
  source : Option String := none
  error : Option String := none
  analyzer : Option Json := none
  analyzerReady : Bool := true
  deriving Repr, Inhabited

namespace RuntimeInfo

/-- Whether a runtime can be used. -/
def usable (i : RuntimeInfo) : Bool :=
  i.available && i.enabled && i.compatible && i.analyzerReady

/-- The members of a runtime's document. -/
def members (i : RuntimeInfo) : List (String × Json) :=
  [("name", .str i.name), ("languages", .ofTexts i.languages), ("native", .bool i.native),
    ("available", .bool i.available), ("enabled", .bool i.enabled),
    ("compatible", .bool i.compatible), ("path", .ofText? i.path), ("version", .ofText? i.version),
    ("source", .ofText? i.source), ("error", .ofText? i.error),
    ("analyzer", i.analyzer.getD .null), ("analyzer_ready", .bool i.analyzerReady)]

/-- A runtime as a document. -/
def toJson (i : RuntimeInfo) : Json :=
  .obj i.members

end RuntimeInfo

namespace RuntimeSpec

/-- What stands for the analyzer's location in an argument. -/
def analyzerMark : String := "\x7banalyzer\x7d"

/-- Whether a specification's arguments name the analyzer. -/
def needsAnalyzer (s : RuntimeSpec) : Bool :=
  s.analyzeArgs.any fun a => Text.contains a analyzerMark

/-- The native runtimes with their languages. -/
def native : List (String × List String) :=
  [("python", ["python"]), ("ecmascript", ["typescript", "javascript"])]

/-- The packages that a native runtime needs. -/
def nativePackages : List (String × String) :=
  [("python", "tree-sitter-python"),
    ("ecmascript", "tree-sitter-typescript tree-sitter-javascript")]

/-- The external runtimes that are known from the start; their analyzers lie below a base
directory. -/
def standard (base : String) : List RuntimeSpec :=
  [{ name := "go"
     languages := ["go"]
     executable := "go"
     versionArgs := ["version"]
     versionPattern := Version.Announcement.goMarked.pattern
     wellKnownPaths :=
       ["/usr/local/go/bin/go", "/usr/local/bin/go", "/opt/homebrew/bin/go", "/usr/bin/go"]
     analyzeArgs := ["run", analyzerMark]
     defaultAnalyzer := some (base ++ "/analyzers/go")
     minVersion := some "1.18"
     installHint := "Install Go from https://go.dev/dl/ or set POLYGLOT_AUDITOR_GO_PATH" }]

end RuntimeSpec
end CrossAudit
