import CrossAudit.Text.CaseTable
import CrossAudit.Text.Word

/-!
# Letter case

Full lower and upper case over Unicode.  One character may become several, and the lower case of
a capital sigma depends on its context: it is final when a cased letter stands before it and none
after it, where both directions skip the ignorable characters.
-/

namespace CrossAudit
namespace Chars

open Text

/-- The image of a code point under the first run that covers it. -/
def shiftBy? (runs : List (Nat × Nat × Nat × Int)) (n : Nat) : Option Char :=
  (runs.find? fun r => r.1 ≤ n && n ≤ r.2.1 && (n - r.1) % r.2.2.1 == 0).map fun r =>
    Char.ofNat ((n : Int) + r.2.2.2).toNat

/-- Whether the nearest character that a sigma does not skip is a cased letter. -/
def meetsCased (cs : List Char) : Bool :=
  match cs.dropWhile fun c => inRanges CaseTable.ignorableRanges c.toNat with
  | [] => false
  | c :: _ => inRanges CaseTable.casedRanges c.toNat

/-- Lower case of a character that does not depend on its context. -/
def lowerChar (c : Char) : List Char :=
  if c.toNat < 128 then [c.toLower]
  else if c.toNat == 0x130 then ['i', Char.ofNat 0x307]
  else [(shiftBy? CaseTable.lowerRuns c.toNat).getD c]

/-- The walk behind `lower`; the characters already passed are kept in reverse. -/
def lowerFrom : List Char → List Char → List Char
  | _, [] => []
  | passed, c :: rest =>
    (if c.toNat == 0x3a3 && meetsCased passed && !meetsCased rest then [Char.ofNat 0x3c2]
      else lowerChar c) ++ lowerFrom (c :: passed) rest

/-- Lower case. -/
def lower (cs : List Char) : List Char :=
  lowerFrom [] cs

/-- Upper case of one character. -/
def upperChar (c : Char) : List Char :=
  if c.toNat < 128 then [c.toUpper]
  else
    match CaseTable.upperSequences.lookup c.toNat with
    | some codes => codes.map Char.ofNat
    | none => [(shiftBy? CaseTable.upperRuns c.toNat).getD c]

/-- Upper case. -/
def upper (cs : List Char) : List Char :=
  cs.flatMap upperChar

/-- Whether a character is an upper-case letter. -/
def isUpperCase (c : Char) : Bool :=
  if c.toNat < 128 then c.isUpper
  else CaseTable.upperCaseRuns.any fun r =>
    r.1 ≤ c.toNat && c.toNat ≤ r.2.1 && (c.toNat - r.1) % r.2.2.1 == 0

/-! ## Comparison without case -/

/-- The small ASCII letter that a character stands for when case is ignored: the letter's own
lower case, and the letters outside ASCII that share it. -/
def foldCase (c : Char) : Char :=
  if c.toNat == 0x17f then 's'
  else if c.toNat == 0x212a then 'k'
  else if c.toNat == 0x130 || c.toNat == 0x131 then 'i'
  else c.toLower

/-- What follows a lower-case ASCII word at the front of a text, whatever its case there. -/
def afterFolded? : List Char → List Char → Option (List Char)
  | [], cs => some cs
  | _ :: _, [] => none
  | w :: word, c :: cs => if foldCase c == w then afterFolded? word cs else none

/-- Whether a lower-case ASCII word occurs in a text, whatever its case there. -/
def occursFolded (word : List Char) (cs : List Char) : Bool :=
  (afterFolded? word cs).isSome ||
    match cs with
    | [] => false
    | _ :: rest => occursFolded word rest

end Chars

namespace Text

/-- Lower case. -/
def lower (s : String) : String :=
  String.ofList (Chars.lower s.toList)

/-- Upper case. -/
def upper (s : String) : String :=
  String.ofList (Chars.upper s.toList)

end Text
end CrossAudit
