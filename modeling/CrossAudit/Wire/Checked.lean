import CrossAudit.Json.Parser
import CrossAudit.Text.Blank
import CrossAudit.Text.Casing
import CrossAudit.Text.Number
import CrossAudit.Text.Search

/-!
# Checked reading of documents

Reading a document at a fixed shape.  All problems are collected, in the order of the fields and
from the outside in, so that a message can give their number and the first of them.

Scalars are read generously: a number may be written as a text, a truth value as a number or a
word.
-/

namespace CrossAudit
namespace Wire

/-- What is wrong with a part of a document. -/
inductive Problem where
  | unreadable (flaw : Json.Flaw) (place : Json.Place)
  | missing
  | notText
  | notInteger
  | fractional
  | unparsedInteger
  | oversizedInteger
  | notFinite
  | notNumber
  | unparsedNumber
  | notTruth
  | unclearTruth
  | notArray
  | notObject
  | unknownType (type : String)
  | notExactlyOne
  deriving Repr, DecidableEq

/-- The wording of a problem. -/
def Problem.message : Problem → String
  | .unreadable flaw place =>
    "Invalid JSON: " ++ flaw.message ++ s!" at line {place.line} column {place.column}"
  | .missing => "Field required"
  | .notText => "Input should be a valid string"
  | .notInteger => "Input should be a valid integer"
  | .fractional => "Input should be a valid integer, got a number with a fractional part"
  | .unparsedInteger => "Input should be a valid integer, unable to parse string as an integer"
  | .oversizedInteger => "Unable to parse input string as an integer, exceeded maximum size"
  | .notFinite => "Input should be a finite number"
  | .notNumber => "Input should be a valid number"
  | .unparsedNumber => "Input should be a valid number, unable to parse string as a number"
  | .notTruth => "Input should be a valid boolean"
  | .unclearTruth => "Input should be a valid boolean, unable to interpret input"
  | .notArray => "Input should be a valid array"
  | .notObject => "Input should be an object"
  | .unknownType t => "Value error, unknown entity type '" ++ t ++ "'"
  | .notExactlyOne => "Value error, response must carry exactly one of 'result' or 'error'"

/-- A value, or what is wrong with it: a first problem and the others. -/
inductive Checked (α : Type) where
  | ok (value : α)
  | bad (first : Problem) (others : List Problem)
  deriving Repr, DecidableEq

namespace Checked

/-- The problems of a reading. -/
def problems {α : Type} : Checked α → List Problem
  | .ok _ => []
  | .bad p ps => p :: ps

/-- Applies a function to a value that is right. -/
def map {α β : Type} (f : α → β) : Checked α → Checked β
  | .ok a => .ok (f a)
  | .bad p ps => .bad p ps

/-- Two readings side by side; the problems of the first come first. -/
def both {α β : Type} (f : Checked (α → β)) (x : Checked α) : Checked β :=
  match f, x with
  | .ok f, .ok a => .ok (f a)
  | .ok _, .bad p ps => .bad p ps
  | .bad p ps, x => .bad p (ps ++ x.problems)

instance : Applicative Checked where
  pure := .ok
  seq f x := both f (x ())

/-- A further condition on a value that is right. -/
def ensure {α : Type} (test : α → Option Problem) : Checked α → Checked α
  | .ok a => match test a with
    | some p => .bad p []
    | none => .ok a
  | .bad p ps => .bad p ps

/-- Reads every item of a list. -/
def each {α : Type} (read : Json → Checked α) : List Json → Checked (List α)
  | [] => .ok []
  | j :: rest => both (map List.cons (read j)) (each read rest)

end Checked

/-- A way to read a value. -/
abbrev Reader (α : Type) := Json → Checked α

/-! ## Scalars -/

namespace Read

/-- Reads a text. -/
def text : Reader String
  | .str s => .ok s
  | _ => .bad .notText []

/-- Drops a fraction that is zero. -/
def dropZeroFraction (cs : List Char) : List Char :=
  match Chars.cut '.' cs with
  | (whole, some fraction) =>
    if !fraction.isEmpty && fraction.all (· == '0') then whole else cs
  | (_, none) => cs

/-- Drops single underscores between other characters. -/
def dropUnderscores (cs : List Char) : Option (List Char) :=
  if cs.head? == some '_' || cs.getLast? == some '_' || Chars.occursIn ['_', '_'] cs then none
  else some (cs.filter (· != '_'))

/-- The walk behind `dropLeadingZeros`, after a zero or an underscore. -/
def dropZerosAfter (passed : Char) : List Char → Option (List Char)
  | [] => some [passed]
  | c :: rest =>
    if c == '0' || c == '_' then dropZerosAfter c rest
    else if c.isDigit then some (c :: rest)
    else if c == '.' then some (passed :: c :: rest)
    else none

/-- Drops zeros in front of other digits, with the underscores between them.  A numeral starts with
a digit or a minus sign; after a minus sign nothing is dropped. -/
def dropLeadingZeros (cs : List Char) : Option (List Char) :=
  match cs with
  | [] => none
  | c :: rest =>
    if c == '0' then dropZerosAfter c rest
    else if c.isDigit || c == '-' then some cs
    else none

/-- The greatest number of characters of an integer. -/
def integerLength : Nat := 4300

/-- Reads an integer numeral: an optional minus sign, and digits of which the first is no zero
unless it is the only one. -/
def strictInteger (cs : List Char) : Checked Int :=
  let negative := cs.head? == some '-'
  let rest := if negative then cs.tail else cs
  let digits := rest.takeWhile Char.isDigit
  if digits.isEmpty || (digits.head? == some '0' && 1 < digits.length) then
    .bad .unparsedInteger []
  else if integerLength < digits.length + (if negative then 1 else 0) then
    .bad .oversizedInteger []
  else if digits.length < rest.length then .bad .unparsedInteger []
  else .ok (Text.signed negative (Json.digitsNat digits))

/-- A looser numeral in strict form: without blanks around it, a plus sign, zeros in front, a
fraction of zeros, and single underscores between digits. -/
def tidyInteger? (cs : List Char) : Option (List Char) := do
  let unsigned :=
    match Chars.trimNumeral cs with
    | '+' :: '-' :: _ => []
    | '+' :: rest => rest
    | rest => rest
  let whole := dropZeroFraction (← dropLeadingZeros unsigned)
  return (dropUnderscores whole).getD whole

/-- Reads an integer in decimal digits, in strict or in looser form. -/
def integerOfText (s : String) : Checked Int :=
  match strictInteger s.toList with
  | .bad .unparsedInteger _ =>
    match tidyInteger? s.toList with
    | some cs => strictInteger cs
    | none => .bad .unparsedInteger []
  | outcome => outcome

/-- The integers that a binary number may stand for lie below this bound, and so do their
opposites. -/
def realBound : Int := 9223372036854775808

/-- Reads an integer that is written as a binary number. -/
def integerOfReal (x : Binary64) : Checked Int :=
  match x.value? with
  | none => .bad .notFinite []
  | some q =>
    if q.den ≠ 1 then .bad .fractional []
    else if q.num.natAbs < realBound.natAbs then .ok q.num
    else .bad .oversizedInteger []

/-- Reads an integer. -/
def integer : Reader Int
  | .int n => .ok n
  | .bool b => .ok (if b then 1 else 0)
  | .real x => integerOfReal x
  | .str s => integerOfText s
  | _ => .bad .notInteger []

/-- A number in decimal digits, with an optional sign, fraction and exponent, or a word for one
that is not finite. -/
def numeral? (cs : List Char) : Option Binary64 := do
  let (negative, rest) := Text.splitSign cs
  if let some x := Text.numberWord? negative rest then return x
  let whole := rest.takeWhile Char.isDigit
  let afterWhole := rest.dropWhile Char.isDigit
  let (fraction, afterFraction) :=
    match afterWhole with
    | '.' :: more => (more.takeWhile Char.isDigit, more.dropWhile Char.isDigit)
    | more => ([], more)
  let (exponent, tail) ← (Json.readExponent afterFraction).toOption
  if !tail.isEmpty || (whole.isEmpty && fraction.isEmpty) then none
  return .ofDecimal negative (Json.digitsNat (whole ++ fraction)) fraction.length
    (exponent.getD 0)

/-- A number with blanks around it or with single underscores inside, but not with both. -/
def numberOf? (s : String) : Option Binary64 :=
  (numeral? (Chars.trimNumeral s.toList)).or ((dropUnderscores s.toList).bind numeral?)

/-- Reads a number. -/
def number : Reader Binary64
  | .int n => .ok (.ofInt n)
  | .real x => .ok x
  | .bool b => .ok (.ofInt (if b then 1 else 0))
  | .str s => match numberOf? s with
    | some x => .ok x
    | none => .bad .unparsedNumber []
  | _ => .bad .notNumber []

/-- The words for false. -/
def falseWords : List String := ["0", "off", "f", "false", "n", "no"]

/-- The words for true. -/
def trueWords : List String := ["1", "on", "t", "true", "y", "yes"]

/-- The truth value of an integer, if it is zero or one. -/
def truthOfInt (n : Int) : Checked Bool :=
  if n = 0 then .ok false
  else if n = 1 then .ok true
  else if n < -9223372036854775808 || 9223372036854775808 ≤ n then .bad .notTruth []
  else .bad .unclearTruth []

/-- Reads a truth value. -/
def truth : Reader Bool
  | .bool b => .ok b
  | .int n => truthOfInt n
  | .real x => match integerOfReal x with
    | .ok n => truthOfInt n
    | .bad _ _ => .bad .notTruth []
  | .str s =>
    if falseWords.contains (Text.lower s) then .ok false
    else if trueWords.contains (Text.lower s) then .ok true
    else .bad .unclearTruth []
  | _ => .bad .notTruth []

/-! ## Containers -/

/-- Reads a value that may be null. -/
def nullable {α : Type} (read : Reader α) : Reader (Option α)
  | .null => .ok none
  | j => Checked.map some (read j)

/-- Reads a list. -/
def list {α : Type} (read : Reader α) : Reader (List α)
  | .arr xs => Checked.each read xs
  | _ => .bad .notArray []

/-- Reads an object whose members have no fixed shape. -/
def table : Reader (List (String × Json))
  | .obj ms => .ok ms
  | _ => .bad .notObject []

/-- Reads an object by its members. -/
def object {α : Type} (read : List (String × Json) → Checked α) : Reader α
  | .obj ms => read ms
  | _ => .bad .notObject []

/-! ## Fields -/

/-- Writes the letter after each underscore as a capital and drops the underscore. -/
def camelChars : List Char → List Char
  | '_' :: c :: rest => c.toUpper :: camelChars rest
  | c :: rest => c :: camelChars rest
  | [] => []

/-- The other spelling of a field: `start_line` is also `startLine`. -/
def camel (name : String) : String :=
  String.ofList (camelChars name.toList)

/-- The value of a field in either spelling; the one with capitals counts first. -/
def lookupField (ms : List (String × Json)) (name : String) : Option Json :=
  (ms.lookup (camel name)).or (ms.lookup name)

/-- Reads a field that has to be there. -/
def required {α : Type} (ms : List (String × Json)) (name : String) (read : Reader α) :
    Checked α :=
  match lookupField ms name with
  | some j => read j
  | none => .bad .missing []

/-- Reads a field with a default. -/
def orElse {α : Type} (ms : List (String × Json)) (name : String) (read : Reader α)
    (fallback : α) : Checked α :=
  match lookupField ms name with
  | some j => read j
  | none => .ok fallback

end Read
end Wire
end CrossAudit
