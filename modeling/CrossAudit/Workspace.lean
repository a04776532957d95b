import CrossAudit.Adapter.Basic
import CrossAudit.Fault
import CrossAudit.Text.PathName

/-!
# The files of a project

A `Workspace` is a snapshot of a directory: files with their content, directories, and the trees
that a parser made, each for the spelling of a path.  A directory exists if it is listed or
something lies below it.  All of it may be entered and read, and it holds no links.
Paths are relative to the workspace and are followed name by name: every name but the last has to
be that of a directory, and double dots lead up from where the names before them lead.
-/

namespace CrossAudit

open Syntax

/-- What stands at a path. -/
inductive Entry where
  | file (content : ByteArray)
  | directory
  deriving Inhabited

/-- A snapshot of a directory, in order of creation, with the trees of its files. -/
structure Workspace where
  entries : List (List String × Entry) := []
  trees : List (String × Node) := []
  deriving Inhabited

namespace Workspace

/-- Resolves double dots, given the components already passed in reverse. -/
def resolveFrom : List String → List String → List String
  | done, [] => done.reverse
  | done, ".." :: rest => resolveFrom done.tail rest
  | done, c :: rest => resolveFrom (c :: done) rest

/-- The components of a path from the workspace. -/
def locate (path : String) : List String :=
  resolveFrom [] (PathName.ofString path).components

/-- What stands at a place. -/
def entryAt? (w : Workspace) (place : List String) : Option Entry :=
  match (w.entries.find? fun e => e.1 == place).map (·.2) with
  | some e => some e
  | none =>
    if place.isEmpty || w.entries.any fun e => place.isPrefixOf e.1 then some .directory else none

/-! ## Following paths -/

/-- Where a path leads: to a place of the workspace, or out of it. -/
inductive Spot where
  | inside (place : List String)
  | outside
  deriving Repr, DecidableEq

/-- The bytes that a name may have. -/
def nameLimit : Nat := 255

/-- The bytes that a path has to stay below. -/
def pathLimit : Nat := 4096

/-- Whether a path holds a null byte, which no path may. -/
def holdsNull (path : String) : Bool :=
  path.toList.contains (Char.ofNat 0)

/-- What stands at a spot.  Outside the workspace there are only directories. -/
def atSpot? (w : Workspace) : Spot → Option Entry
  | .inside place => w.entryAt? place
  | .outside => some .directory

/-- Follows one name of a path. -/
def step (w : Workspace) (path : String) (spot : Spot) (name : String) : Except FileError Spot :=
  match w.atSpot? spot with
  | some (.file _) => .error (.notDirectory path)
  | none => .error (.noSuchFile path)
  | some .directory =>
    if name == ".." then
      match spot with
      | .inside (c :: rest) => .ok (.inside (c :: rest).dropLast)
      | _ => .ok .outside
    else if nameLimit < name.utf8ByteSize then .error (.nameTooLong path)
    else
      match spot with
      | .inside place =>
        if (w.entryAt? (place ++ [name])).isSome then .ok (.inside (place ++ [name]))
        else .error (.noSuchFile path)
      | .outside => .error (.noSuchFile path)

/-- Follows names from the workspace, or from outside of it if the path has a root. -/
def followNames (w : Workspace) (path : String) (p : PathName) : Except FileError Spot :=
  if pathLimit ≤ path.utf8ByteSize then .error (.nameTooLong path)
  else p.components.foldlM (w.step path) (if p.root == "" then .inside [] else .outside)

/-- Follows a path. -/
def follow (w : Workspace) (path : String) : Except FileError Spot :=
  w.followNames path (PathName.ofString path)

/-- What stands at a path. -/
def get? (w : Workspace) (path : String) : Option Entry :=
  match w.follow path with
  | .ok spot => w.atSpot? spot
  | .error _ => none

/-- Whether something stands at a path. -/
def hasPath (w : Workspace) (path : String) : Bool :=
  (w.get? path).isSome

/-- Whether a directory stands at a path. -/
def hasDirectory (w : Workspace) (path : String) : Bool :=
  match w.get? path with
  | some .directory => true
  | _ => false

/-- Where a path leads, if it leads anywhere; only a name that is too long is an error. -/
def look (w : Workspace) (path : String) : Except FileError (Option Spot) :=
  if holdsNull path then .ok none
  else
    match w.follow path with
    | .ok spot => .ok (some spot)
    | .error (.nameTooLong p) => .error (.nameTooLong p)
    | .error _ => .ok none

/-! ## Reading and writing -/

/-- The content of a file. -/
def read (w : Workspace) (path : String) : Except FileError ByteArray :=
  match w.follow path with
  | .error e => .error e
  | .ok spot =>
    match w.atSpot? spot with
    | some (.file content) => .ok content
    | some .directory => .error (.isDirectory path)
    | none => .error (.noSuchFile path)

/-- Puts an entry at a place, instead of what stands there. -/
def putAt (w : Workspace) (place : List String) (entry : Entry) : Workspace :=
  if w.entries.any fun e => e.1 == place then
    { w with entries := w.entries.map fun e => if e.1 == place then (place, entry) else e }
  else { w with entries := w.entries ++ [(place, entry)] }

/-- Puts an entry at a path, instead of what stands there. -/
def put (w : Workspace) (path : String) (entry : Entry) : Workspace :=
  w.putAt (locate path) entry

/-- Writes a text file. -/
def writeText (w : Workspace) (path text : String) : Workspace :=
  w.put path (.file text.toUTF8)

/-- The place of a file to be written: its directory has to be there, and there must be no
directory at the place itself. -/
def placeFor (w : Workspace) (path : String) : Except FileError (List String) := do
  let p := PathName.ofString path
  let spot ← w.followNames path ⟨p.root, p.components.dropLast⟩
  match w.follow path with
  | .ok spot =>
    match w.atSpot? spot, spot with
    | some (.file _), .inside place => return place
    | _, _ => throw (.isDirectory path)
  | .error (.noSuchFile _) =>
    match spot, p.components.getLast? with
    | .inside place, some name => return place ++ [name]
    | _, _ => throw (.noSuchFile path)
  | .error e => throw e

/-- Writes a text file whose directory has to be there. -/
def write (w : Workspace) (path text : String) : Except Fault Workspace :=
  if holdsNull path then .error .nullByte
  else
    match w.placeFor path with
    | .ok place => .ok (w.putAt place (.file text.toUTF8))
    | .error e => .error (.file e)

/-- Removes what stands at a path; its directory stays. -/
def remove (w : Workspace) (path : String) : Workspace :=
  let place := locate path
  let rest := { w with entries := w.entries.filter fun e => e.1 != place }
  if (rest.entryAt? place.dropLast).isSome then rest else rest.putAt place.dropLast .directory

/-- Sets or drops the tree for a path. -/
def setTree (w : Workspace) (path : String) (tree : Option Node) : Workspace :=
  let others := w.trees.filter fun t => t.1 != normalPath path
  { w with trees := others ++ (tree.map fun t => (normalPath path, t)).toList }

/-- The document of a file that was read. -/
def parse (w : Workspace) (a : Adapter) (path : String) (content : ByteArray) : Document :=
  let outcome :=
    match w.trees.lookup (normalPath path) with
    | some tree => .ok tree
    | none => .error "no tree"
  Document.ofParse a.language path content outcome

end Workspace
end CrossAudit
