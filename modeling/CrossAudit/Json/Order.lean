import CrossAudit.Fault

/-!
# Comparing free-form values

Numbers are compared by their values, where a truth value counts as zero or one, texts by their
characters, and arrays by the first items that differ.  Values of other shapes have no order.
-/

namespace CrossAudit

/-- A number as it is compared: exactly, or without a rational value. -/
inductive Quantity where
  | exact (value : Rat)
  | endless (negative : Bool)
  | undefined

namespace Quantity

/-- The number of a value. -/
def of? : Json → Option Quantity
  | .int n => some (.exact n)
  | .bool b => some (.exact (if b then 1 else 0))
  | .real x =>
    some (match x, x.value? with
      | _, some q => .exact q
      | .infinite s, none => .endless s
      | _, none => .undefined)
  | _ => none

/-- Whether two numbers are equal; what is undefined equals nothing. -/
def same : Quantity → Quantity → Bool
  | .exact p, .exact q => p == q
  | .endless s, .endless t => s == t
  | _, _ => false

/-- Whether a number is less than another one. -/
def less : Quantity → Quantity → Bool
  | .exact p, .exact q => decide (p < q)
  | .exact _, .endless t => !t
  | .endless s, .exact _ => s
  | .endless s, .endless t => s && !t
  | _, _ => false

end Quantity

namespace Json

mutual

/-- Whether two values are equal; objects are, whatever the order of their members. -/
def same : Json → Json → Bool
  | .null, .null => true
  | .str s, .str t => s == t
  | .arr xs, .arr ys => sameItems xs ys
  | .obj ms, .obj ns => ms.length == ns.length && sameMembers ms ns
  | a, b =>
    match Quantity.of? a, Quantity.of? b with
    | some p, some q => p.same q
    | _, _ => false

/-- Whether two arrays have equal items. -/
def sameItems : List Json → List Json → Bool
  | [], [] => true
  | x :: xs, y :: ys => same x y && sameItems xs ys
  | _, _ => false

/-- Whether every member is among those of another object. -/
def sameMembers : List (String × Json) → List (String × Json) → Bool
  | [], _ => true
  | (k, v) :: ms, ns =>
    (match ns.lookup k with
      | some w => same v w
      | none => false) && sameMembers ms ns

end

mutual

/-- Whether a value stands before another one. -/
def before : Json → Json → Except Fault Bool
  | .str s, .str t => .ok (decide (s < t))
  | .arr xs, .arr ys => beforeItems xs ys
  | a, b =>
    match Quantity.of? a, Quantity.of? b with
    | some p, some q => .ok (p.less q)
    | _, _ => .error (.incomparable a.shapeName b.shapeName)

/-- Whether an array stands before another one. -/
def beforeItems : List Json → List Json → Except Fault Bool
  | [], ys => .ok (!ys.isEmpty)
  | _ :: _, [] => .ok false
  | x :: xs, y :: ys => if same x y then beforeItems xs ys else before x y

end

end Json
end CrossAudit
