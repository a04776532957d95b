import CrossAudit.Fault
import CrossAudit.Toml.Moment

/-!
# Values of configurations

A configuration is a table of values.  Reading one may fail because its text is malformed, or with
a `Fault` where it treats a value as something that it is not.
-/

namespace CrossAudit
namespace Toml

/-- A value of a configuration. -/
inductive Value where
  | text (value : String)
  | integer (value : Int)
  | real (value : Binary64)
  | truth (value : Bool)
  | moment (value : Moment)
  | array (items : List Value)
  | table (members : List (String × Value))
  deriving Repr, Inhabited

/-- A table: names with values, in the order in which they were set first. -/
abbrev Table := List (String × Value)

/-- Why a configuration cannot be read. -/
inductive Failure where
  | malformed
  | fault (fault : Fault)
  deriving Repr, DecidableEq

/-- Whether a name needs no quotes. -/
def isBareName (cs : List Char) : Bool :=
  !cs.isEmpty && cs.all fun c => c.isAlphanum || c == '_' || c == '-'

namespace Value

/-- The name of a value's shape, as messages give it. -/
def shapeName : Value → String
  | .text _ => "str"
  | .integer _ => "int"
  | .real _ => "float"
  | .truth _ => "bool"
  | .moment (.day _) => "datetime.date"
  | .moment (.clock _) => "datetime.time"
  | .moment (.instant ..) => "datetime.datetime"
  | .array _ => "list"
  | .table _ => "dict"

/-- The kinds of values: the items of an array are all of one kind. -/
inductive Kind where
  | text
  | integer
  | real
  | truth
  | clock
  | date
  | array
  | table
  deriving Repr, DecidableEq

/-- The kind of a value. -/
def kind : Value → Kind
  | .text _ => .text
  | .integer _ => .integer
  | .real _ => .real
  | .truth _ => .truth
  | .moment (.clock _) => .clock
  | .moment _ => .date
  | .array _ => .array
  | .table _ => .table

mutual

/-- A value as a document; moments become texts. -/
def toJson : Value → Json
  | .text s => .str s
  | .integer n => .int n
  | .real x => .real x
  | .truth b => .bool b
  | .moment m => .str (m.text " ")
  | .array xs => .arr (itemsToJson xs)
  | .table ms => .obj (membersToJson ms)

/-- The items of an array as documents. -/
def itemsToJson : List Value → List Json
  | [] => []
  | x :: xs => toJson x :: itemsToJson xs

/-- The members of a table as documents. -/
def membersToJson : List (String × Value) → List (String × Json)
  | [] => []
  | (k, v) :: ms => (k, toJson v) :: membersToJson ms

end

/-- The value of a name in a value that has to be a table. -/
def member (v : Value) (name : String) : Except Fault (Option Value) :=
  match v with
  | .table ms => .ok (ms.lookup name)
  | v => .error (.noAttribute v.shapeName "get")

/-- Empty texts, arrays and tables, zeros and false do not hold. -/
def holds (v : Value) : Bool :=
  v.toJson.holds

end Value
end Toml
end CrossAudit
