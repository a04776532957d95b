import CrossAudit.Fault
import CrossAudit.Text.Integer
import CrossAudit.Text.Number

/-!
# Numbers of free-form values

A setting that has to be a number may be written as a text, and a truth value counts as zero or
one.
-/

namespace CrossAudit
namespace Json

/-- The integer that a text writes. -/
def integerOfText (s : String) : Except Fault Int :=
  match Text.integerDigits? s with
  | none => .error (.notInteger s)
  | some (negative, ds) =>
    if Text.digitLimit < ds.length then .error (.tooManyDigits ds.length)
    else .ok (Text.signed negative (Text.digitsValue ds))

/-- A binary number without its fraction. -/
def integerOfReal (x : Binary64) : Except Fault Int :=
  match x, x.truncate? with
  | _, some n => .ok n
  | .undefined, none => .error .undefinedInteger
  | _, none => .error .infiniteInteger

/-- A value as an integer; a fraction is cut off. -/
def toInteger (v : Json) : Except Fault Int :=
  match v with
  | .int n => .ok n
  | .bool b => .ok (if b then 1 else 0)
  | .real x => integerOfReal x
  | .str s => integerOfText s
  | v => .error (.notIntegral v.shapeName)

/-- The binary number nearest to an integer, which must not be too large. -/
def realOfInteger (n : Int) : Except Fault Binary64 :=
  match Binary64.ofInt n with
  | .infinite _ => .error .tooLargeReal
  | x => .ok x

/-- A value as a number. -/
def toNumber (v : Json) : Except Fault Binary64 :=
  match v with
  | .int n => realOfInteger n
  | .bool b => .ok (.ofInt (if b then 1 else 0))
  | .real x => .ok x
  | .str s =>
    match Text.number? s with
    | some x => .ok x
    | none => .error (.notNumeric s)
  | v => .error (.notReal v.shapeName)

end Json
end CrossAudit
