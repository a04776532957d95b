/-!
# Binary numbers of double precision

A number of 53 bits with a sign, one of the two infinities, or no number at all.  Zero has a sign
as well.  A rational number is rounded to the nearest binary one, a half to the even one, and what
is too large becomes infinite.

Operations are computed exactly and rounded once.
-/

namespace CrossAudit

/-! ## Powers of ten -/

namespace Decimal

/-- Ten to a natural power. -/
def tenPower (n : Nat) : Nat :=
  Nat.pow 10 n

/-- Ten to a power. -/
def powerOfTen (e : Int) : Rat :=
  if e < 0 then 1 / (tenPower e.natAbs : Rat) else tenPower e.natAbs

end Decimal

/-! ## Rounding -/

namespace Rounding

/-- The nearest integer; a half goes to the even neighbour. -/
def halfEven (q : Rat) : Int :=
  let low := q.floor
  let rest := q - (low : Rat)
  if rest < 1 / 2 then low
  else if 1 / 2 < rest then low + 1
  else if low % 2 = 0 then low else low + 1

end Rounding

/-- A positive number `significand * 2 ^ exponent`. -/
structure Scaled where
  significand : Nat
  exponent : Int
  deriving Repr, DecidableEq

namespace Scaled

/-- The value of a scaled number. -/
def value (b : Scaled) : Rat :=
  (b.significand : Rat) * (2 : Rat) ^ b.exponent

/-- The exponent of the smallest numbers. -/
def leastExponent : Int := -1074

/-- The exponent of the greatest numbers. -/
def greatestExponent : Int := 971

/-- The least significand of 53 bits. -/
def leastNormal : Nat := 4503599627370496

/-- The greatest power of two that is at most a positive number. -/
def binaryLog (q : Rat) : Int :=
  let guess : Int := (q.num.natAbs.log2 : Int) - q.den.log2
  if (2 : Rat) ^ guess ≤ q then guess else guess - 1

/-- The nearest number of 53 bits to a positive number; a half goes to the even one. -/
def nearest (q : Rat) : Scaled :=
  let exponent := max (binaryLog q - 52) leastExponent
  let m := (Rounding.halfEven (q / (2 : Rat) ^ exponent)).natAbs
  if m = 2 * leastNormal then ⟨leastNormal, exponent + 1⟩ else ⟨m, exponent⟩

/-- Whether a number is rounded to a given one: it lies between the middles to the neighbours,
which belong to the interval if the significand is even. -/
def attracts (b : Scaled) (q : Rat) : Bool :=
  let step : Rat := (2 : Rat) ^ b.exponent
  let below :=
    if b.significand = leastNormal ∧ leastExponent < b.exponent then step / 4 else step / 2
  let low := b.value - below
  let high := b.value + step / 2
  if b.significand % 2 = 0 then low ≤ q && q ≤ high else low < q && q < high

end Scaled

/-! ## Numbers -/

/-- A binary number of double precision. -/
inductive Binary64 where
  | finite (negative : Bool) (magnitude : Rat)
  | infinite (negative : Bool)
  | undefined
  deriving Repr, DecidableEq

namespace Binary64

/-- Zero without a minus sign. -/
def zero : Binary64 := .finite false 0

instance : Inhabited Binary64 := ⟨zero⟩

/-- The binary number of a sign and a magnitude. -/
def round (negative : Bool) (magnitude : Rat) : Binary64 :=
  if magnitude = 0 then .finite negative 0
  else
    let b := Scaled.nearest magnitude
    if Scaled.greatestExponent < b.exponent then .infinite negative else .finite negative b.value

/-- The binary number nearest to a rational one. -/
def ofRat (q : Rat) : Binary64 :=
  if q < 0 then round true (-q) else round false q

/-- The binary number nearest to an integer. -/
def ofInt (n : Int) : Binary64 :=
  ofRat n

/-- The binary number of a decimal numeral: its digits as a natural number, how many of them stand
after the point, and the exponent.  Numerals far outside the range of binary numbers are told by
the place of their first digit. -/
def ofDecimal (negative : Bool) (digits places : Nat) (exponent : Int) : Binary64 :=
  let scale := exponent - places
  let top := scale + (Nat.toDigits 10 digits).length
  if digits = 0 || top < -330 then .finite negative 0
  else if 310 < top then .infinite negative
  else round negative ((digits : Rat) * Decimal.powerOfTen scale)

/-- The rational value; infinite and undefined numbers have none. -/
def value? : Binary64 → Option Rat
  | .finite negative m => some (if negative then -m else m)
  | _ => none

/-- Whether a number is zero, of either sign. -/
def isZero : Binary64 → Bool
  | .finite _ m => m == 0
  | _ => false

/-! ## Arithmetic and order -/

/-- The value of a sign and a magnitude. -/
def signed (negative : Bool) (magnitude : Rat) : Rat :=
  if negative then -magnitude else magnitude

/-- The number of a value, not rounded; the sign counts for zero only. -/
def ofValue (negative : Bool) (q : Rat) : Binary64 :=
  if q = 0 then .finite negative 0
  else if q < 0 then .finite true (-q)
  else .finite false q

/-- The sum of two numbers, not rounded.  Zero is negative only as the sum of two negative zeros. -/
def exactSum : Binary64 → Binary64 → Binary64
  | .undefined, _ => .undefined
  | _, .undefined => .undefined
  | .infinite s, .infinite t => if s == t then .infinite s else .undefined
  | .infinite s, .finite _ _ => .infinite s
  | .finite _ _, .infinite t => .infinite t
  | .finite s a, .finite t b =>
    ofValue ((s && a == 0) && (t && b == 0)) (signed s a + signed t b)

/-- The binary number nearest to a number that is not rounded yet. -/
def rounded : Binary64 → Binary64
  | .finite s m => round s m
  | x => x

/-- The sum of two numbers. -/
def add (x y : Binary64) : Binary64 :=
  (exactSum x y).rounded

/-- The number with the opposite sign. -/
def negate : Binary64 → Binary64
  | .finite s m => .finite (!s) m
  | .infinite s => .infinite (!s)
  | .undefined => .undefined

/-- Whether a number is less than another one; nothing is less than an undefined number. -/
def lt : Binary64 → Binary64 → Bool
  | .undefined, _ => false
  | _, .undefined => false
  | .infinite s, .infinite t => s && !t
  | .infinite s, .finite _ _ => s
  | .finite _ _, .infinite t => !t
  | .finite s a, .finite t b => decide ((if s then -a else a) < (if t then -b else b))

/-- Whether a number lies in an interval of rational numbers. -/
def isWithin (low high : Rat) (x : Binary64) : Bool :=
  match x.value? with
  | some q => low ≤ q && q ≤ high
  | none => false

/-- The integer that remains of a finite number when its fraction is cut off. -/
def truncate? (x : Binary64) : Option Int :=
  x.value?.map fun q => q.num.tdiv q.den

end Binary64
end CrossAudit
