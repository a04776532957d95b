import CrossAudit.Text.Search

/-!
# Path names

A path is a root, which is empty for a relative path, and a list of components.  Reading a path
drops empty components and single dots; a double dot stays.  Two leading slashes are a root of
their own, any other number of them is the ordinary root.
-/

namespace CrossAudit

/-- A path in normal form. -/
structure PathName where
  root : String
  components : List String
  deriving Repr, DecidableEq, Inhabited

namespace PathName

/-- The root that a number of leading slashes stands for. -/
def rootOf (slashes : Nat) : String :=
  if slashes == 0 then "" else if slashes == 2 then "//" else "/"

/-- Reads a path. -/
def ofString (s : String) : PathName where
  root := rootOf (s.toList.takeWhile (· == '/')).length
  components := (Text.splitOn '/' s).filter fun part => part != "" && part != "."

/-- The normal spelling of a path; the empty relative path is a dot. -/
def toString (p : PathName) : String :=
  if p.root == "" && p.components.isEmpty then "." else p.root ++ Text.join "/" p.components

/-- The root, if there is one, and the components. -/
def parts (p : PathName) : List String :=
  (if p.root == "" then [] else [p.root]) ++ p.components

/-- The last component, empty if there is none. -/
def name (p : PathName) : String :=
  p.components.getLast?.getD ""

/-- The number of characters before the dot that starts the extension.  A dot at either end of
the name starts none. -/
def stemLength? (cs : List Char) : Option Nat :=
  let tail := Chars.lastPiece '.' cs
  let lead := cs.length - tail.length
  if tail.isEmpty || lead ≤ 1 then none else some (lead - 1)

/-- The extension of the last component with its dot, empty if there is none. -/
def suffix (p : PathName) : String :=
  let cs := p.name.toList
  match stemLength? cs with
  | some n => String.ofList (cs.drop n)
  | none => ""

/-- The last component without its extension. -/
def stem (p : PathName) : String :=
  let cs := p.name.toList
  match stemLength? cs with
  | some n => String.ofList (cs.take n)
  | none => p.name

/-- A path below another one; an absolute path stands for itself. -/
def join (p q : PathName) : PathName :=
  if q.root == "" then ⟨p.root, p.components ++ q.components⟩ else q

/-- The path without its last component. -/
def parent (p : PathName) : PathName :=
  ⟨p.root, p.components.dropLast⟩

end PathName

/-- The normal spelling of a path. -/
def normalPath (s : String) : String :=
  (PathName.ofString s).toString

end CrossAudit
