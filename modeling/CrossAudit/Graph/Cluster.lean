import CrossAudit.Text.PathName

/-!
# Test files and packages

Facts about a file that only its path tells: whether it is a test, and which package it belongs
to.  Backslashes separate components as slashes do.
-/

namespace CrossAudit
namespace Graph

/-- A path with slashes only. -/
def slashed (path : String) : List Char :=
  path.toList.map fun c => if c == '\\' then '/' else c

/-- Endings of the names of test files. -/
def testEndings : List String :=
  [".test.js", ".test.jsx", ".test.ts", ".test.tsx", ".spec.js", ".spec.jsx", ".spec.ts",
    ".spec.tsx", "_test.go", "_test.py"]

/-- A file name such as `test_users.py`. -/
def isTestModule (name : List Char) : Bool :=
  match Chars.after? "test_".toList name with
  | some rest => ".py".toList.isSuffixOf rest
  | none => false

/-- Whether a path lies in a test directory or has the name of a test. -/
def isTestFile (path : String) : Bool :=
  let cs := slashed path
  let directories := (cs.splitOn '/').dropLast.map String.ofList
  (directories.any ["test", "tests", "__tests__"].contains) ||
    Chars.holdsToEnd
      (fun cs => (testEndings.any fun e => e.toList.isSuffixOf cs) ||
        isTestModule (Chars.lastPiece '/' cs)) cs

/-- The package of a file: its directory, or for TypeScript and JavaScript the component after
`src`. -/
def packageOf (path language : String) : String :=
  let parts := (PathName.ofString (String.ofList (slashed path))).parts
  let inSource := (language == "typescript" || language == "javascript") &&
    parts.dropLast.contains "src"
  if inSource then
    match parts.dropWhile (· != "src") with
    | _ :: next :: _ :: _ => next
    | _ => "src"
  else
    match parts.reverse with
    | _ :: directory :: _ => directory
    | _ => "root"

end Graph
end CrossAudit
