import CrossAudit.Text.Blank
import CrossAudit.Text.Search

/-!
# The coarse shape of a declared type

A declared type is sorted into arrays, objects and primitives.  Wrappers such as promises and
optionals are looked through, at most four deep, and so is a union with one of the empty types.
-/

namespace CrossAudit
namespace Http

/-- Generic types that stand for their argument. -/
def wrappers : List String :=
  ["Promise", "Optional", "AxiosResponse", "Response", "Observable", "Awaitable", "Coroutine"]

/-- Generic types that are arrays. -/
def arrayNames : List String :=
  ["Array", "ReadonlyArray", "List", "list", "Sequence", "Iterable", "Tuple", "tuple", "Set",
    "set", "FrozenSet", "frozenset"]

/-- Primitive types and their shapes. -/
def primitives : List (String × String) :=
  [("string", "string"), ("str", "string"), ("number", "number"), ("int", "number"),
    ("float", "number"), ("bigint", "number"), ("boolean", "boolean"), ("bool", "boolean"),
    ("void", "null"), ("None", "null"), ("null", "null"), ("undefined", "null")]

/-- Types that tell nothing. -/
def silentTypes : List String :=
  ["any", "unknown", "Any", "object", "T"]

/-- The types without a value. -/
def emptyTypes : List String :=
  ["None", "null", "undefined"]

/-- Whether a character opens type arguments. -/
def opensArguments (c : Char) : Bool :=
  c == '<' || c == '['

/-- Whether a character closes type arguments. -/
def closesArguments (c : Char) : Bool :=
  c == '>' || c == ']'

/-- What follows a name and an opening bracket; blanks may stand between them. -/
def afterOpening? (name : String) (cs : List Char) : Option (List Char) :=
  match (Chars.after? name.toList cs).map (·.dropWhile Text.isBlank) with
  | some (c :: rest) => if opensArguments c then some rest else none
  | _ => none

/-- The argument of a wrapper: all up to the last character, which closes it, on one line. -/
def unwrap? (cs : List Char) : Option (List Char) :=
  wrappers.findSome? fun name =>
    match afterOpening? name cs with
    | some rest =>
      match rest.getLast? with
      | some c =>
        if closesArguments c && !rest.dropLast.contains '\n' then some rest.dropLast else none
      | none => none
    | none => none

/-- Looks through wrappers, at most `depth` of them. -/
def unwrap : Nat → List Char → List Char
  | 0, cs => cs
  | depth + 1, cs =>
    match unwrap? cs with
    | some inner => unwrap depth (Chars.strip inner)
    | none => cs

/-- A union in which all but one member are empty types stands for that member. -/
def dropEmptyTypes (cs : List Char) : List Char :=
  if cs.contains '|' then
    let members := ((cs.splitOn '|').map Chars.strip).filter fun m =>
      !emptyTypes.contains (String.ofList m)
    match members with
    | [only] => only
    | _ => cs
  else cs

/-- Whether a type is written as an array. -/
def isArrayType (cs : List Char) : Bool :=
  "[]".toList.isSuffixOf cs || "[]".toList.isPrefixOf cs ||
    arrayNames.any fun name => cs == name.toList || (afterOpening? name cs).isSome

/-- The shape of a type, or none if the type tells nothing. -/
def typeShape (text : String) : Option String :=
  let cs := Chars.strip (Chars.trimLeft (· == ':') (Chars.strip text.toList))
  let cs := dropEmptyTypes (unwrap 4 cs)
  let name := String.ofList cs
  if cs.isEmpty || silentTypes.contains name then none
  else if isArrayType cs then some "array"
  else some ((primitives.lookup name).getD "object")

/-- The shape of a declared type that may be missing. -/
def typeShape? (text : Option String) : Option String :=
  text.bind typeShape

end Http
end CrossAudit
