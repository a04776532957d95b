import CrossAudit.Json.Basic

/-!
# Places in a source text

Lines and columns count from one; columns are counted in bytes.  A byte offset has as its row the
number of line feeds before it, and as its column the bytes since the last of them.
-/

namespace CrossAudit

/-- A line and a column, both from one. -/
structure Position where
  line : Nat
  col : Nat
  deriving Repr, DecidableEq, Inhabited

/-- The position of a row and a column that count from zero. -/
def Position.ofPoint (row col : Nat) : Position :=
  ⟨row + 1, col + 1⟩

/-- A stretch of source text. -/
structure Location where
  start : Position
  stop : Position
  deriving Repr, DecidableEq, Inhabited

namespace Location

/-- The line a location starts on. -/
def startLine (l : Location) : Nat := l.start.line

/-- The line a location stops on. -/
def stopLine (l : Location) : Nat := l.stop.line

/-- A location as text. -/
def toString (l : Location) : String :=
  s!"{l.start.line}:{l.start.col}-{l.stop.line}:{l.stop.col}"

/-- A location as four numbers. -/
def toJson (l : Location) : Json :=
  .arr [.ofNat l.start.line, .ofNat l.start.col, .ofNat l.stop.line, .ofNat l.stop.col]

end Location

/-- The positions of the line feeds of a text, with the offset of its first byte. -/
def feedsFrom : Nat → List UInt8 → List Nat
  | _, [] => []
  | offset, b :: rest =>
    if b == 10 then offset :: feedsFrom (offset + 1) rest else feedsFrom (offset + 1) rest

/-- The place of a byte offset, given the positions of the line feeds. -/
def positionAt (feeds : List Nat) (offset : Nat) : Position :=
  let passed := feeds.takeWhile (· < offset)
  .ofPoint passed.length (offset - (passed.getLast?.map (· + 1)).getD 0)

end CrossAudit
