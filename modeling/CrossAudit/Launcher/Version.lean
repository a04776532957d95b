import CrossAudit.Fault
import CrossAudit.Text.Blank
import CrossAudit.Text.Integer
import CrossAudit.Text.Search

/-!
# Versions

A version is compared by its dotted numbers: a part counts by the digits it starts with, and a
part that is missing counts as zero.  A number with too many digits is not read.
-/

namespace CrossAudit
namespace Version

/-- Drops a leading `v` or `go`. -/
def dropMark (cs : List Char) : List Char :=
  match cs with
  | 'v' :: rest => rest
  | 'g' :: 'o' :: rest => rest
  | cs => cs

/-- The parts of a version between its dots. -/
def parts (version : String) : List (List Char) :=
  (dropMark (Chars.strip version.toList)).splitOn '.'

/-- The numbers of a version. -/
def numbers (version : String) : List Nat :=
  (parts version).map fun part => Text.digitsValue (part.takeWhile Text.isDecimal)

/-- Compares two lists of numbers; the shorter one goes on with zeros. -/
def compareNumbers : List Nat → List Nat → Ordering
  | [], [] => .eq
  | [], b :: bs => (compare 0 b).then (compareNumbers [] bs)
  | a :: as, [] => (compare a 0).then (compareNumbers as [])
  | a :: as, b :: bs => (compare a b).then (compareNumbers as bs)

/-- Compares two versions. -/
def order (left right : String) : Ordering :=
  compareNumbers (numbers left) (numbers right)

/-- Compares two versions: one if the first is newer, minus one if the second is. -/
def compare (left right : String) : Int :=
  match order left right with
  | .lt => -1
  | .eq => 0
  | .gt => 1

/-- Refuses a version with a number that has too many digits to be read. -/
def check (version : String) : Except Fault Unit :=
  (parts version).forM fun part =>
    let count := (part.takeWhile Text.isDecimal).length
    if Text.digitLimit < count then .error (.tooManyDigits count) else .ok ()

/-- Compares two versions, the numbers of which have to be read. -/
def compareChecked (left right : String) : Except Fault Int := do
  check left
  check right
  return compare left right

/-! ## Versions in a program's output -/

/-- How a program announces its version: plainly, or with `go` right before it. -/
inductive Announcement where
  | plain
  | goMarked
  deriving Repr, DecidableEq

/-- Two or three dotted numbers at the front of a text. -/
def dotted? (cs : List Char) : Option (List Char) :=
  let first := cs.takeWhile Text.isDecimal
  match cs.dropWhile Text.isDecimal with
  | '.' :: rest =>
    let second := rest.takeWhile Text.isDecimal
    if first.isEmpty || second.isEmpty then none
    else
      match rest.dropWhile Text.isDecimal with
      | '.' :: more =>
        let third := more.takeWhile Text.isDecimal
        some (first ++ '.' :: second ++ (if third.isEmpty then [] else '.' :: third))
      | _ => some (first ++ '.' :: second)
  | _ => none

/-- The first version that a text announces. -/
def find? (announcement : Announcement) (text : String) : Option String :=
  let announced? (cs : List Char) : Option (List Char) :=
    match announcement with
    | .plain => dotted? cs
    | .goMarked => (Chars.after? "go".toList cs).bind dotted?
  ((Chars.suffixes text.toList).findSome? announced?).map String.ofList

/-- What a pattern makes of a text: a fault if the pattern is malformed or has no group, nothing if
the text does not match, and otherwise the text of the first group, if that one takes part. -/
abbrev Pattern := String → Except Fault (Option (Option String))

/-- The pattern of an announcement. -/
def Announcement.pattern (a : Announcement) : Pattern :=
  fun text => .ok ((find? a text).map some)

end Version
end CrossAudit
