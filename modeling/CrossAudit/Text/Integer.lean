import CrossAudit.Text.Blank
import CrossAudit.Text.Word

/-!
# Integers in texts

An integer literal: blanks around it, an optional sign, and digits of any script, where a single
underscore may stand between two digits.  The base may be told by the first two characters.
-/

namespace CrossAudit
namespace Text

/-- Splits off a sign: whether it is a minus, and the rest. -/
def splitSign : List Char → Bool × List Char
  | '-' :: rest => (true, rest)
  | '+' :: rest => (false, rest)
  | cs => (false, cs)

/-- A natural number with the sign in front of it. -/
def signed (negative : Bool) (n : Nat) : Int :=
  if negative then -(n : Int) else n

/-- The digits of a numeral without the underscores between them; none if an underscore is
doubled or at an end. -/
def joinDigits? (isDigit : Char → Bool) : List Char → Option (List Char)
  | [] => none
  | [c] => if isDigit c then some [c] else none
  | c :: '_' :: rest => if isDigit c then (joinDigits? isDigit rest).map (c :: ·) else none
  | c :: rest => if isDigit c then (joinDigits? isDigit rest).map (c :: ·) else none

/-- The sign and the digits of an integer. -/
def integerDigits? (s : String) : Option (Bool × List Char) :=
  let (negative, rest) := splitSign (Chars.trimNumeral s.toList)
  (joinDigits? isDecimal rest).map fun ds => (negative, ds)

/-- The integer that a text writes. -/
def integer? (s : String) : Option Int :=
  (integerDigits? s).map fun (negative, ds) => signed negative (digitsValue ds)

/-! ## Other bases -/

/-- The value of a digit, where letters follow the decimal digits. -/
def letterValue? (c : Char) : Option Nat :=
  if 'a' ≤ c && c ≤ 'z' then some (c.toNat - 'a'.toNat + 10)
  else if 'A' ≤ c && c ≤ 'Z' then some (c.toNat - 'A'.toNat + 10)
  else digitValue? c

/-- The greatest number of decimal digits that an integer is read from. -/
def digitLimit : Nat := 4300

/-- The number written by digits of a base. -/
def baseValue? (base : Nat) (cs : List Char) : Option Nat := do
  let ds ← joinDigits? (fun c => (letterValue? c).any (· < base)) cs
  if base == 10 && digitLimit < ds.length then none
  return ds.foldl (fun n c => base * n + (letterValue? c).getD 0) 0

/-- The natural number of a literal whose base is told by its beginning: sixteen after `0x`, eight
after `0o`, two after `0b`, and ten otherwise.  A decimal literal that starts with a zero has the
value zero. -/
def literalValue? : List Char → Option Nat
  | '0' :: m :: rest =>
    let body := if rest.head? == some '_' then rest.tail else rest
    match m.toLower with
    | 'x' => baseValue? 16 body
    | 'o' => baseValue? 8 body
    | 'b' => baseValue? 2 body
    | _ => (baseValue? 10 ('0' :: m :: rest)).filter (· == 0)
  | cs => baseValue? 10 cs

/-- The integer of a literal whose base is told by its beginning. -/
def integerLiteral? (s : String) : Option Int :=
  let (negative, rest) := splitSign (Chars.trimNumeral s.toList)
  (literalValue? rest).map (signed negative)

end Text
end CrossAudit
