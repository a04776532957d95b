import CrossAudit.Text.Number
import CrossAudit.Toml.Quote

/-!
# Numbers

Numbers of a configuration: decimal numbers with or without a fraction, integers in other bases,
and the words for numbers that are not finite.  Underscores may stand between digits.
-/

namespace CrossAudit
namespace Toml

/-- Whether a numeral after an equals sign is written well: no underscore at its ends, next to a
point, or doubled, and no zero in front of other digits. -/
def isStrict (cs : List Char) : Bool :=
  let n := Chars.strip cs
  let unsigned := (Text.splitSign n).2
  if n.isEmpty || n.head? == some '_' || n.getLast? == some '_' then false
  else if Chars.occursIn ['_', '.'] n || Chars.occursIn ['.', '_'] n then false
  else
    match n, unsigned with
    | [_], _ => true
    | '0' :: c :: _, _ => ['.', 'o', 'b', 'x'].contains c && !Chars.occursIn ['_', '_'] n
    | _, '0' :: c :: _ => c == '.' && !Chars.occursIn ['_', '_'] n
    | _, _ => !Chars.occursIn ['_', '_'] n

/-- A fraction without its sign: it starts with a digit, and does not end with a point. -/
def fraction? (cs : List Char) : Option Binary64 :=
  if cs.getLast? == some '.' then none
  else if cs.head?.any Char.isDigit then Text.number? (String.ofList cs)
  else none

/-- The number without its sign. -/
def unsigned? (cs : List Char) : Option Value :=
  let isFraction := cs.contains '.' || (!cs.contains 'x' && (cs.contains 'e' || cs.contains 'E'))
  let word := Text.lower (String.ofList cs)
  if isFraction then (fraction? cs).map .real
  else if word == "inf" || word == "nan" then (Text.number? (String.ofList cs)).map .real
  else (Text.integerLiteral? (String.ofList cs)).map .integer

/-- The number that is subtracted from zero. -/
def negated : Value → Value
  | .integer n => .integer (0 - n)
  | .real x => .real (Binary64.zero.add x.negate)
  | v => v

/-- The number that a text writes. -/
def readNumber (cs : List Char) : Except Failure Value :=
  let (negative, rest) := Text.splitSign cs
  match unsigned? (rest.filter (· != '_')) with
  | some v => .ok (if negative then negated v else v)
  | none => malformed

end Toml
end CrossAudit
