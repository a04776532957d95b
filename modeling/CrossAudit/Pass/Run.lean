import CrossAudit.Entity.Extraction
import CrossAudit.Pass.Complexity
import CrossAudit.Pass.Documentation
import CrossAudit.Pass.Security

/-!
# Running a pass over files

Files are taken language by language, in the order in which the languages first appear.  Each
file is read and parsed on its own: what goes wrong with it is recorded and does not touch the
others.  After each file the progress is reported.  Only a path that no system accepts stops a
pass.
-/

namespace CrossAudit

/-- The built-in passes. -/
inductive Pass where
  | complexity
  | documentation
  | security
  deriving Repr, DecidableEq, Inhabited

namespace Pass

/-- The name of a pass. -/
def name : Pass → String
  | .complexity => "complexity"
  | .documentation => "documentation"
  | .security => "security"

/-- All passes. -/
def all : List Pass :=
  [.complexity, .documentation, .security]

/-- The pass of a name. -/
def ofName? (name : String) : Option Pass :=
  all.find? fun p => p.name == name

/-- Why a pass cannot be registered. -/
inductive Refusal where
  | nameless (title : String)
  deriving Repr, DecidableEq

/-- The wording of a refusal. -/
def Refusal.message : Refusal → String
  | .nameless title => title ++ " has no name"

/-- Whether a pass of a given title and name may be registered. -/
def checkName (title name : String) : Except Refusal Unit :=
  if name == "" then .error (.nameless title) else .ok ()

/-- The passes that a choice of names selects, in that order; unknown names are passed over. -/
def select (names : Option (List String)) : List Pass :=
  match names with
  | none => all
  | some ns => ns.filterMap ofName?

/-- The findings of a pass on a document. -/
def onDocument (p : Pass) (a : Adapter) (d : Syntax.Document) (config : Json) :
    Except Fault (List Finding) :=
  match p with
  | .complexity => Complexity.run a d config
  | .documentation => Documentation.run a d config
  | .security => .ok (Security.run d)

/-- What a pass over files found. -/
structure Outcome where
  findings : List Finding := []
  processed : Nat := 0
  errors : List ErrorRecord := []
  deriving Inhabited

/-- Two outcomes after each other. -/
def Outcome.append (x y : Outcome) : Outcome :=
  ⟨x.findings ++ y.findings, x.processed + y.processed, x.errors ++ y.errors⟩

/-- The outcome of a pass on one file. -/
def onFile (p : Pass) (w : Workspace) (config : Json) (a : Adapter) (file : String) : Outcome :=
  let path := normalPath file
  match w.read path with
  | .error e =>
    { errors := [Extraction.fileError a path "read" ("Read error: " ++ e.message)] }
  | .ok content =>
    let d := w.parse a path content
    let complaints := Extraction.parseErrors a d
    match p.onDocument a d config with
    | .ok findings => { findings := findings, processed := 1, errors := complaints }
    | .error fault =>
      { errors := complaints ++
          [Extraction.fileError a path "analysis" ("Analysis error: " ++ fault.message)] }

/-- The files that have an adapter, in groups by language. -/
def groupFiles (r : Registry) (files : List String) : List (Adapter × List String) :=
  Assoc.group r.adapterFor? files

/-- The files that have an adapter, in the order in which they are analyzed. -/
def claimed (r : Registry) (files : List String) : List (Adapter × String) :=
  (groupFiles r files).flatMap fun g => g.2.map fun file => (g.1, file)

/-! ## Progress -/

/-- Someone who is told of progress: how many files are done, of how many.  A report changes its
state, and it may fail at a report. -/
abbrev Listener (σ : Type) := Nat × Nat → σ → Except Fault Unit × σ

/-- Tells a listener of progress; nobody minds if it fails. -/
def tell {σ : Type} (listener : Listener σ) (report : Nat × Nat) (s : σ) : σ :=
  (listener report s).2

/-- The listener that keeps all reports. -/
def recorder : Listener (List (Nat × Nat)) := fun report heard =>
  (.ok (), heard ++ [report])

/-! ## Files one after the other -/

/-- Analyzes the rest of the files: adds what they yield to an outcome, and tells a listener after
each of them.  A path that holds a null byte stops the pass. -/
def analyzeRest {σ : Type} (p : Pass) (w : Workspace) (config : Json) (listener : Listener σ)
    (total : Nat) : List (Adapter × String) → Nat → Outcome → σ → Except Fault Outcome × σ
  | [], _, out, s => (.ok out, s)
  | (a, file) :: rest, done, out, s =>
    if Workspace.holdsNull file then (.error .nullByte, s)
    else
      analyzeRest p w config listener total rest (done + 1) (out.append (p.onFile w config a file))
        (tell listener (done + 1, total) s)

/-- The outcome of a pass over files, and the state of the listener afterwards. -/
def analyze {σ : Type} (p : Pass) (w : Workspace) (r : Registry) (listener : Listener σ)
    (files : List String) (config : Json) (s : σ) : Except Fault Outcome × σ :=
  let order := claimed r files
  p.analyzeRest w config listener order.length order 0 {} s

/-- The outcome of a pass over files and the progress reported. -/
def attempt (p : Pass) (w : Workspace) (r : Registry) (files : List String) (config : Json) :
    Except Fault Outcome × List (Nat × Nat) :=
  p.analyze w r recorder files config []

end Pass
end CrossAudit
