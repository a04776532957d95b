import CrossAudit.Json.Basic
import CrossAudit.Text.Decimal
import CrossAudit.Text.Quoted

/-!
# Values in messages

How a message shows a value: a text as it is, and inside a list or an object between quotes.
-/

namespace CrossAudit
namespace Json

mutual

/-- A value inside another one. -/
def displayInner : Json → String
  | .null => "None"
  | .bool b => if b then "True" else "False"
  | .int n => toString n
  | .real x => Decimal.text Decimal.message x
  | .str s => Quoted.quote s
  | .arr xs => "[" ++ displayItems true xs ++ "]"
  | .obj ms => "\x7b" ++ displayMembers true ms ++ "\x7d"

/-- The items of a list; the first one has nothing before it. -/
def displayItems (first : Bool) : List Json → String
  | [] => ""
  | x :: xs => (if first then "" else ", ") ++ displayInner x ++ displayItems false xs

/-- The members of an object; the first one has nothing before it. -/
def displayMembers (first : Bool) : List (String × Json) → String
  | [] => ""
  | (k, v) :: ms =>
    (if first then "" else ", ") ++ Quoted.quote k ++ ": " ++ displayInner v ++
      displayMembers false ms

end

/-- A value in a message. -/
def display : Json → String
  | .str s => s
  | v => displayInner v

end Json
end CrossAudit
