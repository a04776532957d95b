import CrossAudit.Text.Decimal
import CrossAudit.Text.Integer
import CrossAudit.Text.Search

/-!
# Days and times

The moments that a configuration may hold: a day, a time of day, or both together with an optional
offset.  A day is read from fixed positions: what stands between its numbers is not looked at.
-/

namespace CrossAudit
namespace Toml

/-- A day of the calendar. -/
structure Day where
  year : Nat
  month : Nat
  day : Nat
  deriving Repr, DecidableEq, Inhabited

/-- A time of day, with its millionths of a second. -/
structure Clock where
  hour : Nat
  minute : Nat
  second : Nat
  micro : Nat
  deriving Repr, DecidableEq, Inhabited

/-- A moment; an offset is counted in minutes. -/
inductive Moment where
  | day (day : Day)
  | clock (clock : Clock)
  | instant (day : Day) (clock : Clock) (offset : Option Int)
  deriving Repr, DecidableEq, Inhabited

/-! ## Validity -/

/-- Whether a year has 366 days. -/
def isLeap (year : Nat) : Bool :=
  year % 4 == 0 && (year % 100 != 0 || year % 400 == 0)

/-- The number of days of a month. -/
def daysIn (year month : Nat) : Nat :=
  if month == 2 then if isLeap year then 29 else 28
  else if [4, 6, 9, 11].contains month then 30
  else 31

/-- Whether a natural number lies between two others. -/
def within (low high n : Nat) : Bool :=
  low ≤ n && n ≤ high

/-- A day of the calendar, if there is one of these numbers. -/
def Day.ofNumbers? (year month day : Nat) : Option Day :=
  if within 1 9999 year && within 1 12 month && within 1 (daysIn year month) day then
    some ⟨year, month, day⟩
  else none

/-- A time of day, if there is one of these numbers. -/
def Clock.ofNumbers? (hour minute second micro : Nat) : Option Clock :=
  if within 0 23 hour && within 0 59 minute && within 0 59 second && within 0 999999 micro then
    some ⟨hour, minute, second, micro⟩
  else none

/-! ## Text -/

/-- A number with at least a given count of digits. -/
def padded (width n : Nat) : String :=
  String.ofList (Decimal.padLeft width (Decimal.digits n))

/-- The text of a day. -/
def Day.text (d : Day) : String :=
  padded 4 d.year ++ "-" ++ padded 2 d.month ++ "-" ++ padded 2 d.day

/-- The text of a time of day; the millionths are left out if there are none. -/
def Clock.text (c : Clock) : String :=
  padded 2 c.hour ++ ":" ++ padded 2 c.minute ++ ":" ++ padded 2 c.second ++
    (if c.micro == 0 then "" else "." ++ padded 6 c.micro)

/-- The text of an offset. -/
def offsetText (minutes : Int) : String :=
  (if minutes < 0 then "-" else "+") ++ padded 2 (minutes.natAbs / 60) ++ ":" ++
    padded 2 (minutes.natAbs % 60)

/-- The text of a moment, with a given text between a day and its time. -/
def Moment.text (between : String) : Moment → String
  | .day d => d.text
  | .clock c => c.text
  | .instant d c offset => d.text ++ between ++ c.text ++ ((offset.map offsetText).getD "")

/-- A moment as configuration files write it. -/
def Moment.setting (m : Moment) : String :=
  Text.replaceAll (m.text "T") "+00:00" "Z"

/-! ## Reading -/

/-- The integer between two positions. -/
def integerAt? (cs : List Char) (start stop : Nat) : Option Int :=
  Text.integer? (String.ofList ((cs.take stop).drop start))

/-- The natural number between two positions. -/
def numberAt? (cs : List Char) (start stop : Nat) : Option Nat :=
  (integerAt? cs start stop).bind Int.toNat?

/-- An offset: a sign, two digits of hours, any character, and two digits of minutes. -/
def offset? (cs : List Char) : Option Int := do
  let cs := if cs == ['Z'] then "+00:00".toList else cs
  let hours ← integerAt? cs 1 3
  let minutes ← integerAt? cs 4 6
  let amount := 60 * hours + minutes
  return if cs.head? == some '-' then -amount else amount

/-- The millionths of a second that the digits after the point of a second mean. -/
def micro? (digits : List Char) : Option Nat := do
  let n ← (Text.integer? (String.ofList digits)).bind Int.toNat?
  return if digits.length ≤ 6 then n * Decimal.tenPower (6 - digits.length)
    else n / Decimal.tenPower (digits.length - 6)

/-- The part of a second and the offset, in a text that goes on after the point of a second. -/
def afterPoint (cs : List Char) : List Char × Option (List Char) :=
  if cs.getLast?.any fun c => c == 'Z' || c == 'z' then (cs.dropLast, some ['Z'])
  else
    let mark := if cs.contains '+' then '+' else '-'
    let rest := cs.dropWhile (· != mark)
    (cs.takeWhile (· != mark), if rest.isEmpty then none else some rest)

/-- What follows the seconds of an instant: millionths and an offset.  If one of the two cannot be
read, there is no offset. -/
def afterSeconds (cs : List Char) : Nat × Option Int :=
  match cs with
  | [] => (0, none)
  | '.' :: rest =>
    let (digits, mark) := afterPoint rest
    match mark.map offset? with
    | some none => (0, none)
    | offset =>
      match micro? digits with
      | some n => (n, offset.join)
      | none => (0, none)
  | rest => (0, offset? rest)

/-- The day at the beginning of a text. -/
def dayAt? (cs : List Char) : Option Day := do
  Day.ofNumbers? (← numberAt? cs 0 4) (← numberAt? cs 5 7) (← numberAt? cs 8 10)

/-- The day, or the day and time, that a text writes. -/
def date? (cs : List Char) : Option Moment := do
  if !cs.tail.contains '-' then none
  let day ← dayAt? cs
  if cs.length == 10 then return .day day
  let (micro, offset) := afterSeconds (cs.drop 19)
  let clock ← Clock.ofNumbers? (← numberAt? cs 11 13) (← numberAt? cs 14 16)
    (← numberAt? cs 17 19) micro
  return .instant day clock offset

/-- The numbers of a time of day at the beginning of a text, if it starts like one: three pairs of
digits with colons between them, and three to six digits after a point. -/
def clockNumbers? : List Char → Option (Nat × Nat × Nat × Nat)
  | a :: b :: ':' :: c :: d :: ':' :: e :: f :: rest =>
    if [a, b, c, d, e, f].all Char.isDigit then
      let digits :=
        match rest with
        | '.' :: more => (more.takeWhile Char.isDigit).take 6
        | _ => []
      some (Text.digitsValue [a, b], Text.digitsValue [c, d], Text.digitsValue [e, f],
        if 3 ≤ digits.length then Text.digitsValue digits else 0)
    else none
  | _ => none

end Toml
end CrossAudit
