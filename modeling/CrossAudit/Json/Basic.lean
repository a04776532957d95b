import CrossAudit.Assoc
import CrossAudit.Number.Binary64

/-!
# JSON values

Documents whose shape is not fixed in advance: options, configuration, and what analyzers attach
to an entity.  Objects keep their members in the order they were written, integers are apart from
fractions: integers are exact, fractions are binary numbers.
-/

namespace CrossAudit

/-- A JSON value. -/
inductive Json where
  | null
  | bool (value : Bool)
  | int (value : Int)
  | real (value : Binary64)
  | str (value : String)
  | arr (items : List Json)
  | obj (members : List (String × Json))
  deriving Repr, Inhabited

namespace Json

/-! ## Equality -/

mutual

/-- Whether two values are of one shape with the same contents, members in the same order. -/
def identical : Json → Json → Bool
  | .null, .null => true
  | .bool a, .bool b => a == b
  | .int m, .int n => m == n
  | .real x, .real y => x == y
  | .str s, .str t => s == t
  | .arr xs, .arr ys => identicalItems xs ys
  | .obj ms, .obj ns => identicalMembers ms ns
  | _, _ => false

/-- Whether two lists have the same items. -/
def identicalItems : List Json → List Json → Bool
  | [], [] => true
  | x :: xs, y :: ys => identical x y && identicalItems xs ys
  | _, _ => false

/-- Whether two lists have the same members. -/
def identicalMembers : List (String × Json) → List (String × Json) → Bool
  | [], [] => true
  | (k, v) :: ms, (l, w) :: ns => k == l && identical v w && identicalMembers ms ns
  | _, _ => false

end

instance : BEq Json := ⟨identical⟩

theorem beq_int (m n : Int) : (int m == int n) = (m == n) := by
  show identical (.int m) (.int n) = _
  rw [identical]

/-! ## Members -/

/-- The members of an object; other values have none. -/
def members : Json → List (String × Json)
  | .obj ms => ms
  | _ => []

/-- The value of a member. -/
def get? (key : String) : Json → Option Json
  | .obj ms => ms.lookup key
  | _ => none

/-- Sets a member: the place of a key is where it was set first, its value is the last one. -/
def setMember (key : String) (value : Json) (ms : List (String × Json)) : List (String × Json) :=
  Assoc.set key value ms

/-- Sets a member of an object; other values are left alone. -/
def insert (j : Json) (key : String) (value : Json) : Json :=
  match j with
  | .obj ms => .obj (setMember key value ms)
  | v => v

/-! ## Shapes -/

/-- The name of a value's shape, as messages give it. -/
def shapeName : Json → String
  | .null => "NoneType"
  | .bool _ => "bool"
  | .int _ => "int"
  | .real _ => "float"
  | .str _ => "str"
  | .arr _ => "list"
  | .obj _ => "dict"

/-- Empty, zero and absent values do not hold. -/
def holds : Json → Bool
  | .null => false
  | .bool b => b
  | .int n => n != 0
  | .real x => !x.isZero
  | .str s => s != ""
  | .arr xs => !xs.isEmpty
  | .obj ms => !ms.isEmpty

/-- A text, if the value is one. -/
def str? : Json → Option String
  | .str s => some s
  | _ => none

/-- The items of an array; other values have none. -/
def items : Json → List Json
  | .arr xs => xs
  | _ => []

/-! ## Building -/

/-- An optional text; its absence is null. -/
def ofText? : Option String → Json
  | some s => .str s
  | none => .null

/-- An array of texts. -/
def ofTexts (ss : List String) : Json :=
  .arr (ss.map .str)

/-- A natural number. -/
def ofNat (n : Nat) : Json :=
  .int n

end Json
end CrossAudit
