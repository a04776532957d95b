import CrossAudit.Http.TypeShape
import CrossAudit.Text.Blank
import CrossAudit.Text.Casing
import CrossAudit.Text.Search

/-!
# Names and field types of data shapes

Shapes are compared under a name without its usual affixes, and fields under a type in a shared
vocabulary: `array<...>` around the element type for every spelling of an array, and the same word
for the same primitive in every language.
-/

namespace CrossAudit
namespace Schema

/-! ## Shape names -/

/-- Words that do not tell shapes apart. -/
def affixes : List String :=
  ["request", "response", "dto", "model", "schema"]

/-- Recognises an affix and drops it. -/
def dropAffix (cs : List Char) : Option (Nat × List Char) :=
  (affixes.find? fun w => w.toList.isPrefixOf cs).map fun w => (w.length, [])

/-- The name that shapes are grouped by: lower case, without hyphens, underscores and affixes. -/
def groupName (name : String) : String :=
  String.ofList (Chars.substitute dropAffix
    ((Chars.lower name.toList).filter fun c => c != '-' && c != '_'))

/-! ## Field types -/

/-- The primitive types of TypeScript and JavaScript. -/
def ecmaTypes : List (String × String) :=
  [("string", "string"), ("number", "number"), ("bigint", "number"), ("boolean", "boolean"),
    ("Date", "datetime"), ("any", "any"), ("unknown", "any"), ("object", "object")]

/-- The primitive types of Go. -/
def goTypes : List (String × String) :=
  [("string", "string"), ("int", "number"), ("int8", "number"), ("int16", "number"),
    ("int32", "number"), ("int64", "number"), ("uint", "number"), ("uint32", "number"),
    ("uint64", "number"), ("float32", "number"), ("float64", "number"), ("bool", "boolean"),
    ("time.Time", "datetime"), ("interface\x7b\x7d", "any"), ("any", "any")]

/-- The primitive types of Python. -/
def pythonTypes : List (String × String) :=
  [("str", "string"), ("int", "number"), ("float", "number"), ("Decimal", "number"),
    ("bool", "boolean"), ("datetime", "datetime"), ("datetime.datetime", "datetime"),
    ("date", "datetime"), ("dict", "object"), ("Dict", "object"), ("Any", "any"),
    ("object", "any")]

/-- The shared word for a type that is not an array; an unknown type is its own word. -/
def baseType (language name : String) : String :=
  let table :=
    if language == "typescript" || language == "javascript" then ecmaTypes
    else if language == "go" then goTypes
    else if language == "python" then pythonTypes
    else []
  (table.lookup name).getD name

/-- Array types without an element type. -/
def bareArrays : List String :=
  ["list", "List", "Sequence", "set", "Set", "tuple", "Tuple", "Array", "ReadonlyArray", "[]"]

/-- What stands between an opening and an ending, on one line.  A final line feed after the
ending does not count. -/
def enclosed? (opening ending cs : List Char) : Option (List Char) :=
  let inner (cs : List Char) : Option (List Char) :=
    ((Chars.after? opening cs).bind (Chars.before? ending)).filter fun body => !body.contains '\n'
  match inner cs with
  | some body => some body
  | none => if cs.getLast? == some '\n' then inner cs.dropLast else none

/-- The spellings of an array: what stands before and after its element type. -/
def arraySpellings : List (String × String) :=
  [("", "[]"), ("[]", ""), ("Array<", ">"), ("ReadonlyArray<", ">"), ("List[", "]"),
    ("list[", "]"), ("Sequence[", "]"), ("Set[", "]"), ("set[", "]"), ("Tuple[", "]"),
    ("tuple[", "]")]

/-- The element type of an array. -/
def elementType? (cs : List Char) : Option (List Char) :=
  arraySpellings.findSome? fun s => enclosed? s.1.toList s.2.toList cs

/-- Drops the pointer stars in front and looks through one optional. -/
def dropOptional (cs : List Char) : List Char :=
  let cs := Chars.trimLeft (· == '*') (Chars.strip cs)
  match enclosed? "Optional[".toList "]".toList cs with
  | some inner => Chars.strip inner
  | none => cs

/-- The array of an element type; an element type that is missing or empty is `any`. -/
def arrayOf (element : Option String) : String :=
  let name := element.getD ""
  "array<" ++ (if name == "" then "any" else name) ++ ">"

/-- The walk behind `normalize`; every step goes to an element type, which is shorter. -/
def normalizeFrom (language : String) : Nat → List Char → Option String
  | 0, _ => none
  | fuel + 1, cs =>
    if cs.isEmpty then none
    else
      let cs := Http.dropEmptyTypes (dropOptional cs)
      if bareArrays.contains (String.ofList cs) then some "array<any>"
      else
        match elementType? cs with
        | some element =>
          some (arrayOf (normalizeFrom language fuel (Chars.cut ',' element).1))
        | none => some (baseType language (String.ofList cs))

/-- A field type in the shared vocabulary, or none if there is no type. -/
def normalize (language text : String) : Option String :=
  normalizeFrom language (text.length + 1) text.toList

/-- The type of a field that may have none. -/
def normalize? (language : String) (text : Option String) : Option String :=
  text.bind (normalize language)

/-! ## Compatibility -/

/-- Whether a shared type is an array. -/
def isArray (type : String) : Bool :=
  Text.startsWith type "array<"

/-- Whether two field types can describe the same data: one of them is unknown or `any`, both
are arrays and one of them of `any`, or they are the same. -/
def compatible (left right : Option String) : Bool :=
  match left, right with
  | some l, some r =>
    if l == "any" || r == "any" then true
    else if l == "array<any>" || r == "array<any>" then isArray l && isArray r
    else l == r
  | _, _ => true

end Schema
end CrossAudit
