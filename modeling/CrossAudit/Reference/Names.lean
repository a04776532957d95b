import CrossAudit.Text.Blank
import CrossAudit.Text.PathName

/-!
# Names that refer to types and modules

A base class is looked up by its last dotted part, without type arguments.  An import is looked up
by a key, the list of its path's parts, so that dotted and slashed sources end alike.
-/

namespace CrossAudit
namespace Reference

/-- Whether a character opens arguments of a type or a call. -/
def opensArguments (c : Char) : Bool :=
  c == '<' || c == '[' || c == '('

/-- Drops everything from the first opening bracket that is followed by no further line. -/
def dropArguments : List Char → List Char
  | [] => []
  | c :: rest => if opensArguments c && !rest.contains '\n' then [] else c :: dropArguments rest

/-- The plain name of a base class: `pkg.Base[T]` is `Base`. -/
def baseName (text : String) : String :=
  String.ofList (Chars.lastPiece '.' (dropArguments (Chars.strip text.toList)))

/-- The extensions that an import source may carry. -/
def sourceExtensions : List String :=
  [".py", ".pyi", ".ts", ".tsx", ".mts", ".cts", ".js", ".jsx", ".mjs", ".cjs", ".go"]

/-- Drops a source extension at the end, or before one final line feed. -/
def dropExtension (cs : List Char) : List Char :=
  let drop? (cs : List Char) : Option (List Char) :=
    sourceExtensions.findSome? fun e => Chars.before? e.toList cs
  match drop? cs with
  | some body => body
  | none =>
    if cs.getLast? == some '\n' then
      match drop? cs.dropLast with
      | some body => body ++ ['\n']
      | none => cs
    else cs

/-- The parts of an import source. -/
def moduleKey (source : String) : List String :=
  let cs := dropExtension (Chars.strip source.toList)
  if cs.contains '/' then
    ((cs.splitOn '/').map String.ofList).filter fun p => p != "" && p != "." && p != ".."
  else ((cs.splitOn '.').map String.ofList).filter (· != "")

/-- The length of the common start of two lists. -/
def commonLength : List String → List String → Nat
  | a :: as, b :: bs => if a == b then commonLength as bs + 1 else 0
  | _, _ => 0

/-- How many parts at the end of a module key a file's path shares. -/
def suffixOverlap (key : List String) (file : String) : Nat :=
  let slashed := file.toList.map fun c => if c == '\\' then '/' else c
  let path := String.ofList (dropExtension slashed)
  commonLength key.reverse (PathName.ofString path).parts.reverse

end Reference
end CrossAudit
