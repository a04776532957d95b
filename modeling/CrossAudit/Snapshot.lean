import CrossAudit.Json.Access
import CrossAudit.Json.Parser
import CrossAudit.Workspace

/-!
# Reading a project snapshot

A snapshot is a document that lists the files of a project, each with its text or its bytes in
hexadecimal and the syntax tree that a parser made of it.  A tree is a list of rows
`[parent, kind, first, last, marks, role]` in which every parent stands before its children; the
root's parent is negative, the role may be missing, and the marks add up from 1 for a named node,
2 for a missing one and 4 for an error.
-/

namespace CrossAudit
namespace Snapshot

open Syntax

/-- The bytes that pairs of hexadecimal digits write. -/
def hexBytes : List Char → List UInt8
  | a :: b :: rest =>
    UInt8.ofNat ((Json.hexValue? a).getD 0 * 16 + (Json.hexValue? b).getD 0) :: hexBytes rest
  | _ => []

/-- A row of a tree, given the line feeds of the source. -/
def row? (feeds : List Nat) (j : Json) : Option Row :=
  match j with
  | .arr (.int parent :: .str kind :: .int first :: .int last :: .int marks :: more) =>
    let m := marks.toNat
    some
      { parent := if parent < 0 then none else some parent.toNat
        info :=
          { kind := kind, first := first.toNat, last := last.toNat
            named := m % 2 == 1, missing := m / 2 % 2 == 1, broken := m / 4 % 2 == 1
            role := more.head?.bind Json.str?
            location := ⟨positionAt feeds first.toNat, positionAt feeds last.toNat⟩ } }
  | _ => none

/-- The content of a file. -/
def contentOf (j : Json) : ByteArray :=
  match j.textAt? "hex" with
  | some h => ⟨(hexBytes h.toList).toArray⟩
  | none => (j.textAt "source" "").toUTF8

/-- The tree of a file, if it has one. -/
def treeOf (j : Json) (content : ByteArray) : Option Node :=
  match j.get? "tree" with
  | some (.arr rows) => ofRows (rows.filterMap (row? (feedsFrom 0 content.toList)))
  | _ => none

/-- The entry of a file, unless it is declared missing. -/
def entry? (j : Json) : Option Entry :=
  if j.boolAt "missing" false then none
  else if j.boolAt "dir" false then some .directory
  else some (.file (contentOf j))

/-- Adds a file to a workspace. -/
def addFile (w : Workspace) (j : Json) : Workspace :=
  let path := j.textAt "path" ""
  match entry? j with
  | some e => (w.put path e).setTree path (treeOf j (contentOf j))
  | none => w

/-- The workspace of a list of files. -/
def workspace (files : List Json) : Workspace :=
  files.foldl addFile {}

end Snapshot
end CrossAudit
