import CrossAudit.Number.Binary64
import CrossAudit.Text.Casing
import CrossAudit.Text.Integer

/-!
# Numbers in texts

A number literal: blanks around it, an optional sign, digits with an optional fraction, and an
optional exponent.  A single underscore may stand between two digits.  Words stand for infinity
and for what is no number.
-/

namespace CrossAudit
namespace Text

/-- The digits at the front of a text, where single underscores between them are passed over, and
the text after them. -/
def digitRun : List Char → List Char × List Char
  | [] => ([], [])
  | [c] => if isDecimal c then ([c], []) else ([], [c])
  | c :: '_' :: d :: rest =>
    if isDecimal c then
      if isDecimal d then
        let (ds, tail) := digitRun (d :: rest)
        (c :: ds, tail)
      else ([c], '_' :: d :: rest)
    else ([], c :: '_' :: d :: rest)
  | c :: d :: rest =>
    if isDecimal c then
      let (ds, tail) := digitRun (d :: rest)
      (c :: ds, tail)
    else ([], c :: d :: rest)

/-- The exponent that makes up the rest of a numeral. -/
def exponent? : List Char → Option Int
  | [] => some 0
  | c :: rest =>
    if c == 'e' || c == 'E' then
      let (negative, rest) := splitSign rest
      match digitRun rest with
      | (ds, []) => if ds.isEmpty then none else some (signed negative (digitsValue ds))
      | _ => none
    else none

/-- A number that is not finite, written as a word. -/
def numberWord? (negative : Bool) (cs : List Char) : Option Binary64 :=
  let word := lower (String.ofList cs)
  if word == "inf" || word == "infinity" then some (.infinite negative)
  else if word == "nan" then some .undefined
  else none

/-- The number of a numeral without its sign. -/
def magnitude? (negative : Bool) (cs : List Char) : Option Binary64 := do
  let (whole, rest) := digitRun cs
  let (fraction, rest) :=
    match rest with
    | '.' :: more => digitRun more
    | more => ([], more)
  if whole.isEmpty && fraction.isEmpty then none
  let e ← exponent? rest
  return .ofDecimal negative (digitsValue (whole ++ fraction)) fraction.length e

/-- The number that a text writes. -/
def number? (s : String) : Option Binary64 :=
  let (negative, rest) := splitSign (Chars.trimNumeral s.toList)
  (numberWord? negative rest).or (magnitude? negative rest)

end Text
end CrossAudit
