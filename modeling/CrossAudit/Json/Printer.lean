import CrossAudit.Json.Basic
import CrossAudit.Text.Decimal
import CrossAudit.Text.Quoted

/-!
# JSON text

How a value is written is a `Style`: what stands between items and after keys, whether characters
outside printable ASCII are escaped, and the form of numbers.  A finite number that is no integer
always has a point or an exponent.  On several lines, each item and each member has one of its own,
two spaces further in than what holds it.
-/

namespace CrossAudit
namespace Json

/-- The choices of a printed document. -/
structure Style where
  itemGap : String
  keyGap : String
  ascii : Bool
  numbers : Decimal.Form

/-- No spaces, only what must be escaped is, and the numbers of requests. -/
def compact : Style := ⟨",", ":", false, Decimal.wire⟩

/-- No spaces, in ASCII. -/
def compactAscii : Style := ⟨",", ":", true, Decimal.document⟩

/-- A space after commas and colons, in ASCII. -/
def spacedAscii : Style := ⟨", ", ": ", true, Decimal.document⟩

/-! ## Strings -/

/-- One UTF-16 unit, escaped by its code. -/
def escapeUnit (n : Nat) : List Char :=
  '\\' :: 'u' :: Quoted.hex 4 n

/-- A character, escaped by the codes of its UTF-16 units. -/
def escapeUnits (c : Char) : List Char :=
  let n := c.toNat
  if n < 0x10000 then escapeUnit n
  else escapeUnit (0xd800 + (n - 0x10000) / 0x400) ++ escapeUnit (0xdc00 + (n - 0x10000) % 0x400)

/-- One character of a string. -/
def escapeChar (ascii : Bool) (c : Char) : List Char :=
  if c == '"' then ['\\', '"']
  else if c == '\\' then ['\\', '\\']
  else if c == '\n' then ['\\', 'n']
  else if c == '\r' then ['\\', 'r']
  else if c == '\t' then ['\\', 't']
  else if c.toNat == 8 then ['\\', 'b']
  else if c.toNat == 12 then ['\\', 'f']
  else if c.toNat < 0x20 then escapeUnit c.toNat
  else if ascii && 0x7f ≤ c.toNat then escapeUnits c
  else [c]

/-- A string between quotes. -/
def quoted (ascii : Bool) (s : String) : String :=
  String.ofList ('"' :: (s.toList.flatMap (escapeChar ascii) ++ ['"']))

/-! ## Values -/

mutual

/-- The text of a value. -/
def render (style : Style) : Json → String
  | .null => "null"
  | .bool b => if b then "true" else "false"
  | .int n => toString n
  | .real x => Decimal.text style.numbers x
  | .str s => quoted style.ascii s
  | .arr xs => "[" ++ renderItems style true xs ++ "]"
  | .obj ms => "\x7b" ++ renderMembers style true ms ++ "\x7d"

/-- The items of an array; the first one has nothing before it. -/
def renderItems (style : Style) (first : Bool) : List Json → String
  | [] => ""
  | x :: xs => (if first then "" else style.itemGap) ++ render style x ++ renderItems style false xs

/-- The members of an object; the first one has nothing before it. -/
def renderMembers (style : Style) (first : Bool) : List (String × Json) → String
  | [] => ""
  | (k, v) :: ms =>
    (if first then "" else style.itemGap) ++ quoted style.ascii k ++ style.keyGap ++
      render style v ++ renderMembers style false ms

end

/-! ## Several lines -/

/-- A line end, and the spaces of a level. -/
def newline (level : Nat) : String :=
  String.ofList ('\n' :: List.replicate (2 * level) ' ')

mutual

/-- The text of a value at a level. -/
def indented (level : Nat) : Json → String
  | .arr [] => "[]"
  | .arr (x :: xs) =>
    "[" ++ newline (level + 1) ++ indented (level + 1) x ++ indentedItems (level + 1) xs ++
      newline level ++ "]"
  | .obj [] => "\x7b\x7d"
  | .obj ((k, v) :: ms) =>
    "\x7b" ++ newline (level + 1) ++ quoted true k ++ ": " ++ indented (level + 1) v ++
      indentedMembers (level + 1) ms ++ newline level ++ "\x7d"
  | .null => "null"
  | .bool b => if b then "true" else "false"
  | .int n => toString n
  | .real x => Decimal.text Decimal.document x
  | .str s => quoted true s

/-- The items of an array after the first one. -/
def indentedItems (level : Nat) : List Json → String
  | [] => ""
  | x :: xs => "," ++ newline level ++ indented level x ++ indentedItems level xs

/-- The members of an object after the first one. -/
def indentedMembers (level : Nat) : List (String × Json) → String
  | [] => ""
  | (k, v) :: ms =>
    "," ++ newline level ++ quoted true k ++ ": " ++ indented level v ++ indentedMembers level ms

end

/-- A document on several lines. -/
def pretty (j : Json) : String :=
  indented 0 j

end Json
end CrossAudit
