import CrossAudit.Number.Binary64

/-!
# Decimal text of numbers

Three ways to write a binary number: with a fixed number of places, a half going to the even
neighbour; rounded to a whole number in the same way; and with the fewest digits that tell it from
the neighbouring numbers.  A `Form` says where the last way is positional and where it is
scientific, and how numbers that are not finite are written.
-/

namespace CrossAudit
namespace Decimal

/-! ## Fixed places -/

/-- Pads a numeral with zeros on the left. -/
def padLeft (width : Nat) (digits : List Char) : List Char :=
  List.replicate (width - digits.length) '0' ++ digits

/-- The decimal digits of a natural number. -/
def digits (n : Nat) : List Char :=
  (Nat.toDigits 10 n)

/-- The sign in front of a number. -/
def sign (negative : Bool) : List Char :=
  if negative then ['-'] else []

/-- A magnitude with a fixed, positive number of places. -/
def fixedMagnitude (places : Nat) (m : Rat) : List Char :=
  let scaled := (Rounding.halfEven (m * (tenPower places : Rat))).natAbs
  let ds := padLeft (places + 1) (digits scaled)
  ds.take (ds.length - places) ++ '.' :: ds.drop (ds.length - places)

/-- A number with a fixed, positive number of places. -/
def fixed (places : Nat) : Binary64 → String
  | .finite s m => String.ofList (sign s ++ fixedMagnitude places m)
  | .infinite s => String.ofList (sign s ++ "inf".toList)
  | .undefined => "nan"

/-- A number rounded to an integer. -/
def rounded : Binary64 → String
  | .finite s m => String.ofList (sign s ++ digits (Rounding.halfEven m).natAbs)
  | .infinite s => String.ofList (sign s ++ "inf".toList)
  | .undefined => "nan"

/-! ## Shortest digits -/

/-- The greatest power of ten that is at most a positive number. -/
def decimalLog (q : Rat) : Int :=
  if 1 ≤ q then (digits q.floor.natAbs).length - 1
  else
    let power : Int := (digits (q.den / q.num.natAbs)).length
    if (10 : Rat) ^ (-(power - 1)) ≤ q then -(power - 1) else -power

/-- The numbers with a given count of digits on both sides of a value, the nearer one first, each
as its digits and the power of ten of the last one. -/
def neighbours (value : Rat) (count : Nat) : List (Nat × Int) :=
  let power := decimalLog value - ((count : Int) - 1)
  let scaled := value / (10 : Rat) ^ power
  let low := scaled.floor.natAbs
  if Rounding.halfEven scaled = low then [(low, power), (low + 1, power)]
  else [(low + 1, power), (low, power)]

/-- The fewest digits that are rounded to a binary number, with the power of ten of the last one.
Seventeen digits are always enough. -/
def shortest (b : Scaled) : Nat × Int :=
  let candidates := (List.range 17).flatMap fun k => neighbours b.value (k + 1)
  (candidates.find? fun c => b.attracts ((c.1 : Rat) * (10 : Rat) ^ c.2)).getD (0, 0)

/-- Drops the zeros at the end of a numeral. -/
def dropZeros (ds : List Char) : List Char :=
  (ds.reverse.dropWhile (· == '0')).reverse

/-! ## Shortest text -/

/-- The choices of a number's text: the least power of ten that is written positionally, the least
number of digits of an exponent, and the words for numbers that are not finite. -/
structure Form where
  leastPositional : Int
  exponentWidth : Nat
  infinity : String
  negativeInfinity : String
  undefined : String

/-- Numbers in messages. -/
def message : Form := ⟨-4, 2, "inf", "-inf", "nan"⟩

/-- Numbers in documents. -/
def document : Form := ⟨-4, 2, "Infinity", "-Infinity", "NaN"⟩

/-- Numbers in requests to analyzers. -/
def wire : Form := ⟨-5, 1, "null", "null", "null"⟩

/-- Numbers in configuration files. -/
def setting : Form := ⟨-4, 1, "inf", "-inf", "nan"⟩

/-- The exponent part of scientific form: a sign and digits. -/
def exponentPart (width : Nat) (e : Int) : List Char :=
  'e' :: (if e < 0 then '-' else '+') :: padLeft width (digits e.natAbs)

/-- A numeral with its point, given the power of ten of its first digit. -/
def layOut (form : Form) (ds : List Char) (exponent : Int) : List Char :=
  if exponent < form.leastPositional || 16 ≤ exponent then
    match ds with
    | [] => []
    | d :: more =>
      (if more.isEmpty then [d] else d :: '.' :: more) ++ exponentPart form.exponentWidth exponent
  else if exponent < 0 then
    '0' :: '.' :: (List.replicate (exponent.natAbs - 1) '0' ++ ds)
  else
    let whole := exponent.natAbs + 1
    let part := ds.drop whole
    ds.take whole ++ List.replicate (whole - ds.length) '0' ++
      '.' :: (if part.isEmpty then ['0'] else part)

/-- The shortest text of a magnitude. -/
def magnitudeText (form : Form) (m : Rat) : List Char :=
  if m = 0 then "0.0".toList
  else
    let (n, power) := shortest (Scaled.nearest m)
    let ds := digits n
    layOut form (dropZeros ds) (power + ds.length - 1)

/-- The shortest text of a number; if it is finite, it has a point or an exponent. -/
def text (form : Form) : Binary64 → String
  | .finite s m => String.ofList (sign s ++ magnitudeText form m)
  | .infinite s => if s then form.negativeInfinity else form.infinity
  | .undefined => form.undefined

end Decimal
end CrossAudit
