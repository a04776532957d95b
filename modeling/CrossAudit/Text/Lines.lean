/-!
# Lines of a text

A text is cut into lines at every line boundary of Unicode.  A carriage return followed by a line
feed is one boundary, and a boundary at the very end opens no further line.
-/

namespace CrossAudit
namespace Chars

/-- Characters that end a line. -/
def isLineBreak (c : Char) : Bool :=
  let n := c.toNat
  (0xa ≤ n && n ≤ 0xd) || (0x1c ≤ n && n ≤ 0x1e) || n == 0x85 || n == 0x2028 || n == 0x2029

/-- The walk behind `lines`, with the current line collected in reverse. -/
def linesFrom : List Char → List Char → List (List Char)
  | [], [] => []
  | line, [] => [line.reverse]
  | line, '\r' :: '\n' :: rest => line.reverse :: linesFrom [] rest
  | line, c :: rest =>
    if isLineBreak c then line.reverse :: linesFrom [] rest else linesFrom (c :: line) rest

/-- The lines of a text, without their boundaries. -/
def lines (cs : List Char) : List (List Char) :=
  linesFrom [] cs

/-- A text whose lines end with line feeds, also where they ended with a carriage return, with or
without a line feed after it. -/
def unifyFeeds : List Char → List Char
  | [] => []
  | '\r' :: '\n' :: rest => '\n' :: unifyFeeds rest
  | c :: rest => (if c == '\r' then '\n' else c) :: unifyFeeds rest

end Chars

namespace Text

/-- The lines of a text, without their boundaries. -/
def lines (s : String) : List String :=
  (Chars.lines s.toList).map String.ofList

/-- A text whose lines end with line feeds. -/
def unifyFeeds (s : String) : String :=
  String.ofList (Chars.unifyFeeds s.toList)

end Text
end CrossAudit
