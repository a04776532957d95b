/-!
# Blank characters

The white-space characters of Unicode, together with the four ASCII separators, and the removal of
blanks from the ends of a character list.
-/

namespace CrossAudit
namespace Text

/-- White space of every script, and the ASCII information separators. -/
def isBlank (c : Char) : Bool :=
  let n := c.toNat
  (0x9 ≤ n && n ≤ 0xd) || (0x1c ≤ n && n ≤ 0x20) || n == 0x85 || n == 0xa0 || n == 0x1680 ||
    (0x2000 ≤ n && n ≤ 0x200a) || n == 0x2028 || n == 0x2029 || n == 0x202f || n == 0x205f ||
    n == 0x3000

/-- The blanks that may stand around a numeral: all but the information separators. -/
def isNumeralBlank (c : Char) : Bool :=
  isBlank c && !(0x1c ≤ c.toNat && c.toNat ≤ 0x1f)

end Text

namespace Chars

/-- Drops the characters of a class from the front. -/
def trimLeft (p : Char → Bool) (cs : List Char) : List Char :=
  cs.dropWhile p

/-- Drops the characters of a class from the back. -/
def trimRight (p : Char → Bool) (cs : List Char) : List Char :=
  (cs.reverse.dropWhile p).reverse

/-- Drops blanks from both ends. -/
def strip (cs : List Char) : List Char :=
  trimRight Text.isBlank (trimLeft Text.isBlank cs)

/-- A numeral without the blanks around it. -/
def trimNumeral (cs : List Char) : List Char :=
  trimRight Text.isNumeralBlank (trimLeft Text.isNumeralBlank cs)

end Chars

namespace Text

/-- Drops blanks from both ends. -/
def strip (s : String) : String :=
  String.ofList (Chars.strip s.toList)

/-- Drops leading copies of one character. -/
def dropLeading (c : Char) (s : String) : String :=
  String.ofList (Chars.trimLeft (· == c) s.toList)

end Text
end CrossAudit
