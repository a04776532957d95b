import CrossAudit.Adapter.Registry
import CrossAudit.Assoc
import CrossAudit.Language
import CrossAudit.Text.Glob
import CrossAudit.Total
import CrossAudit.Workspace

/-!
# Discovery of source files

The files below a root are found by a walk that enters one directory after another and leaves out
some of them by their name.  Patterns include or exclude files by their path from the root or by
their bare name.  What is found comes in the order of the paths, component by component.
-/

namespace CrossAudit
namespace Discovery

/-- Directories that are passed over. -/
def skippedDirectories : List String :=
  [".venv", "venv", "__pycache__", "node_modules", ".git", "site-packages", ".tox",
    ".pytest_cache", "build", "dist", ".mypy_cache", ".ruff_cache", "htmlcov", ".eggs",
    "egg-info", ".polyglot-auditor", "vendor", "coverage", ".next"]

/-- Whether a directory is passed over. -/
def isSkipped (name : String) : Bool :=
  skippedDirectories.contains name || Text.endsWith name ".egg-info"

/-- Whether a pattern matches a path or its last component. -/
def matchesAny (path : String) (patterns : List String) : Bool :=
  let name := Text.lastPiece '/' path
  patterns.any fun p => Glob.isMatch p path || Glob.isMatch p name

/-- Whether a file below the root is taken, by its components from the root. -/
def isTaken (includes excludes : List String) (below : List String) : Bool :=
  let path := Text.join "/" below
  (includes.isEmpty || matchesAny path includes) && !matchesAny path excludes

/-- Why files cannot be discovered. -/
inductive Failure where
  | notDirectory (root : String)
  | unreachable (error : FileError)
  | failed (root reason : String)
  deriving Repr, DecidableEq

/-- The wording of a failure. -/
def Failure.message : Failure → String
  | .notDirectory root => "Not a directory: " ++ root
  | .unreachable e => e.message
  | .failed root reason => "File discovery failed for " ++ root ++ ": " ++ reason

/-! ## The walk -/

/-- The names in a directory, in order of creation. -/
def names (w : Workspace) (place : List String) : List String :=
  (w.entries.filterMap fun e =>
    if place.isPrefixOf e.1 then e.1[place.length]? else none).eraseDups

/-- Whether a file stands at a place. -/
def hasFile (w : Workspace) (place : List String) : Bool :=
  match w.entryAt? place with
  | some (.file _) => true
  | _ => false

/-- The names of the files in a directory. -/
def fileNames (w : Workspace) (place : List String) : List String :=
  (names w place).filter fun name => hasFile w (place ++ [name])

/-- The names of the directories in a directory that are not passed over, sorted. -/
def directoryNames (w : Workspace) (place : List String) : List String :=
  ((names w place).filter fun name => !hasFile w (place ++ [name]) && !isSkipped name).mergeSort
    fun a b => decide (a ≤ b)

/-- All names of all places together. -/
def nameCount (w : Workspace) : Nat :=
  total (w.entries.map (·.1.length))

/-- A place with a name below it has fewer names than there are. -/
theorem length_lt_nameCount {w : Workspace} {place : List String} {name : String}
    (h : name ∈ names w place) : place.length < nameCount w := by
  rw [names, List.mem_eraseDups, List.mem_filterMap] at h
  obtain ⟨e, he, hname⟩ := h
  rw [Option.ite_none_right_eq_some] at hname
  exact Nat.lt_of_lt_of_le (List.getElem?_eq_some_iff.1 hname.2).1
    (le_total_of_mem (List.mem_map_of_mem he))

/-- The files below a directory at a path, by their components from there.  A directory whose path
has grown too long cannot be read, and nothing is found in it. -/
def walk (w : Workspace) (path : String) (place : List String) : List (List String) :=
  if Workspace.pathLimit ≤ path.utf8ByteSize then []
  else
    (fileNames w place).map (fun name => [name]) ++
      (directoryNames w place).attach.flatMap fun ⟨name, _⟩ =>
        (walk w (path ++ "/" ++ name) (place ++ [name])).map (name :: ·)
termination_by nameCount w - place.length
decreasing_by
  have hname : name ∈ names w place :=
    (List.mem_filter.1 (List.mem_mergeSort.1 ‹name ∈ directoryNames w place›)).1
  have hlt := length_lt_nameCount hname
  rw [List.length_append, List.length_singleton]
  omega

/-- Compares two paths component by component. -/
def placeLe : List String → List String → Bool
  | [], _ => true
  | _ :: _, [] => false
  | a :: as, b :: bs => if a == b then placeLe as bs else decide (a ≤ b)

/-! ## The files below a root -/

/-- The place of a root, which has to be a directory; outside the workspace it has none. -/
def rootPlace (w : Workspace) (base : PathName) : Except Failure (Option (List String)) := do
  let spot ← (w.look base.toString).mapError .unreachable
  match spot, spot.bind w.atSpot? with
  | some (.inside place), some .directory => return some place
  | some .outside, some .directory => return none
  | _, _ => throw (.notDirectory base.toString)

/-- The files below a root that are taken, as paths that start with the root. -/
def find (w : Workspace) (root : String) (includes excludes : List String) :
    Except Failure (List String) := do
  let base := PathName.ofString root
  let below := ((← rootPlace w base).map (walk w base.toString)).getD []
  let taken := (below.filter (isTaken includes excludes)).mergeSort placeLe
  return taken.map fun p => (PathName.mk base.root (base.components ++ p)).toString

/-- The files of a project; whatever keeps them from being found fails the search as a whole. -/
def search (w : Workspace) (root : String) (includes excludes : List String) :
    Except Failure (List String) :=
  (find w root includes excludes).mapError fun
    | .unreachable e => .failed (normalPath root) e.message
    | f => f

/-- The language of a file: that of its adapter, else the one its extension tells. -/
def languageOf? (r : Registry) (file : String) : Option String :=
  match r.adapterFor? file with
  | some a => some a.language
  | none => Language.ofPath? file

/-- The files of each language. -/
def groupByLanguage (r : Registry) (files : List String) : List (String × List String) :=
  Assoc.group (languageOf? r) files

end Discovery
end CrossAudit
