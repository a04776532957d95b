import CrossAudit.Json.Basic
import CrossAudit.Total

/-!
# Reading JSON

A strict reader of one document.  Its only freedom is blank space around the tokens and the words
`NaN`, `Infinity` and `-Infinity` for numbers; of repeated keys the last one counts.  Containers
that are not empty may be nested up to a given depth, and integers have a limited number of digits.

A text that is no document is refused with a complaint: what is wrong with it, and what was left of
it where that was noticed.
-/

namespace CrossAudit
namespace Json

/-! ## Complaints -/

/-- What may be wrong with a text. -/
inductive Flaw where
  | endOfList
  | endOfObject
  | endOfString
  | endOfValue
  | noColon
  | noListEnd
  | noObjectEnd
  | noWord
  | noValue
  | noKey
  | badEscape
  | halfEscape
  | loneSurrogate
  | controlCharacter
  | badNumber
  | outOfRange
  | trailingComma
  | trailingText
  | tooDeep
  deriving Repr, DecidableEq, Inhabited

/-- The wording of a flaw. -/
def Flaw.message : Flaw → String
  | .endOfList => "EOF while parsing a list"
  | .endOfObject => "EOF while parsing an object"
  | .endOfString => "EOF while parsing a string"
  | .endOfValue => "EOF while parsing a value"
  | .noColon => "expected `:`"
  | .noListEnd => "expected `,` or `]`"
  | .noObjectEnd => "expected `,` or `\x7d`"
  | .noWord => "expected ident"
  | .noValue => "expected value"
  | .noKey => "key must be a string"
  | .badEscape => "invalid escape"
  | .halfEscape => "unexpected end of hex escape"
  | .loneSurrogate => "lone leading surrogate in hex escape"
  | .controlCharacter => "control character (\\u0000-\\u001F) found while parsing a string"
  | .badNumber => "invalid number"
  | .outOfRange => "number out of range"
  | .trailingComma => "trailing comma"
  | .trailingText => "trailing characters"
  | .tooDeep => "recursion limit exceeded"

/-- A flaw, with what was left of the text where it was noticed. -/
structure Complaint where
  flaw : Flaw
  rest : List Char
  deriving Repr, DecidableEq

/-- The outcome of reading something in front of a text: what was read and what is left, or a
complaint. -/
abbrev Reading (α : Type) := Except Complaint (α × List Char)

/-- A line and a column of a text, both from one; the end of a line that a flaw is at belongs to the
next line, as its column zero. -/
structure Place where
  line : Nat
  column : Nat
  deriving Repr, DecidableEq, Inhabited

/-- How many bytes characters take. -/
def byteCount (cs : List Char) : Nat :=
  total (cs.map Char.utf8Size)

/-- The place in a text that a final part of it begins at; columns count bytes, and the end of a
text has the column of its last byte. -/
def placeOf (text rest : List Char) : Place :=
  let before := text.take (text.length - rest.length)
  let passed := byteCount (before.reverse.takeWhile (· != '\n')).reverse
  match rest with
  | [] => ⟨before.count '\n' + 1, passed⟩
  | '\n' :: _ => ⟨before.count '\n' + 2, 0⟩
  | _ => ⟨before.count '\n' + 1, passed + 1⟩

/-! ## Tokens -/

/-- The blanks that may stand between tokens. -/
def isGap (c : Char) : Bool :=
  c == ' ' || c == '\t' || c == '\n' || c == '\r'

/-- Drops the blanks in front. -/
def skipGap (cs : List Char) : List Char :=
  cs.dropWhile isGap

/-- The value of a hexadecimal digit. -/
def hexValue? (c : Char) : Option Nat :=
  if '0' ≤ c && c ≤ '9' then some (c.toNat - '0'.toNat)
  else if 'a' ≤ c && c ≤ 'f' then some (c.toNat - 'a'.toNat + 10)
  else if 'A' ≤ c && c ≤ 'F' then some (c.toNat - 'A'.toNat + 10)
  else none

/-- The value of four hexadecimal digits. -/
def hexUnit? (a b c d : Char) : Option Nat := do
  let a ← hexValue? a
  let b ← hexValue? b
  let c ← hexValue? c
  let d ← hexValue? d
  return ((a * 16 + b) * 16 + c) * 16 + d

/-- The character of a one-letter escape. -/
def shortEscape? (c : Char) : Option Char :=
  match c with
  | '"' => some '"'
  | '\\' => some '\\'
  | '/' => some '/'
  | 'b' => some (Char.ofNat 8)
  | 'f' => some (Char.ofNat 12)
  | 'n' => some '\n'
  | 'r' => some '\r'
  | 't' => some '\t'
  | _ => none

/-- The complaint about an escape that is not followed by four hexadecimal digits. -/
def unitComplaint (cs : List Char) : Complaint :=
  if byteCount cs < 4 then ⟨.endOfString, []⟩
  else ⟨.badEscape, cs.dropWhile fun c => (hexValue? c).isSome⟩

/-- The complaint about what follows the first half of a pair, if it is not another escape. -/
def pairComplaint : List Char → Complaint
  | '\\' :: 'u' :: cs => unitComplaint cs
  | [] | ['\\'] => ⟨.endOfString, []⟩
  | '\\' :: cs | cs => ⟨.halfEscape, cs⟩

/-- The rest of a string whose opening quote was read: its characters, reversed onto `done`, and
the text after the closing quote.  A surrogate counts only as half of a pair. -/
def readString (done : List Char) : List Char → Reading String
  | [] => .error ⟨.endOfString, []⟩
  | '"' :: rest => .ok (String.ofList done.reverse, rest)
  | '\\' :: 'u' :: a :: b :: c :: d :: rest =>
    match hexUnit? a b c d with
    | none => .error (unitComplaint (a :: b :: c :: d :: rest))
    | some n =>
      if 0xd800 ≤ n && n < 0xdc00 then
        match rest with
        | '\\' :: 'u' :: e :: f :: g :: h :: rest' =>
          match hexUnit? e f g h with
          | none => .error (unitComplaint (e :: f :: g :: h :: rest'))
          | some m =>
            if 0xdc00 ≤ m && m < 0xe000 then
              readString (Char.ofNat (0x10000 + (n - 0xd800) * 0x400 + (m - 0xdc00)) :: done) rest'
            else .error ⟨.loneSurrogate, h :: rest'⟩
        | rest => .error (pairComplaint rest)
      else if 0xdc00 ≤ n && n < 0xe000 then .error ⟨.loneSurrogate, d :: rest⟩
      else readString (Char.ofNat n :: done) rest
  | '\\' :: 'u' :: rest => .error (unitComplaint rest)
  | '\\' :: c :: rest =>
    match shortEscape? c with
    | some e => readString (e :: done) rest
    | none => .error ⟨.badEscape, c :: rest⟩
  | c :: rest =>
    if c == '\\' then .error ⟨.endOfString, []⟩
    else if c.toNat < 0x20 then .error ⟨.controlCharacter, c :: rest⟩
    else readString (c :: done) rest

/-- The number that decimal digits write. -/
def digitsNat (ds : List Char) : Nat :=
  ds.foldl (fun n c => 10 * n + (c.toNat - '0'.toNat)) 0

/-- The complaint about a text that should go on with a digit. -/
def digitComplaint : List Char → Complaint
  | [] => ⟨.endOfValue, []⟩
  | cs => ⟨.badNumber, cs⟩

/-- The digits in front; there has to be one. -/
def readDigits (cs : List Char) : Reading (List Char) :=
  let ds := cs.takeWhile Char.isDigit
  if ds.isEmpty then .error (digitComplaint cs) else .ok (ds, cs.dropWhile Char.isDigit)

/-- The digits after a point, if there is a point. -/
def readFraction : List Char → Reading (Option (List Char))
  | '.' :: rest => (readDigits rest).map fun (ds, rest) => (some ds, rest)
  | cs => .ok (none, cs)

/-- An exponent behind its mark: a sign, if there is one, and digits. -/
def readPower (cs : List Char) : Reading Int :=
  match cs with
  | '-' :: rest => (readDigits rest).map fun (ds, rest) => (-(digitsNat ds : Int), rest)
  | '+' :: rest => (readDigits rest).map fun (ds, rest) => ((digitsNat ds : Int), rest)
  | rest => (readDigits rest).map fun (ds, rest) => ((digitsNat ds : Int), rest)

/-- The exponent, if there is one. -/
def readExponent : List Char → Reading (Option Int)
  | c :: rest =>
    if c == 'e' || c == 'E' then (readPower rest).map fun (n, rest) => (some n, rest)
    else .ok (none, c :: rest)
  | [] => .ok (none, [])

/-- The greatest number of digits of an integer. -/
def integerDigits : Nat := 4300

/-- The number that its parts write; without a point and an exponent it is an integer. -/
def numberOf (negative : Bool) (whole : List Char) (fraction : Option (List Char))
    (exponent : Option Int) : Json :=
  match fraction, exponent with
  | none, none =>
    let n : Int := digitsNat whole
    .int (if negative then -n else n)
  | _, _ =>
    let ds := fraction.getD []
    .real (Binary64.ofDecimal negative (digitsNat (whole ++ ds)) ds.length (exponent.getD 0))

/-- A number without its sign. -/
def readMagnitude (negative : Bool) (cs : List Char) : Except Complaint (Json × List Char) := do
  let (whole, rest) ← readDigits cs
  if whole.head? == some '0' && whole.length != 1 then .error ⟨.badNumber, cs.drop 1⟩
  else
    let (fraction, rest) ← readFraction rest
    let (exponent, rest) ← readExponent rest
    if fraction.isNone && exponent.isNone && integerDigits < whole.length then
      -- The digits are counted from the sign on.
      .error ⟨.outOfRange, cs.drop (if negative then integerDigits else integerDigits + 1)⟩
    else return (numberOf negative whole fraction exponent, rest)

/-- A number: an integer, unless it has a point or an exponent. -/
def readNumber : List Char → Reading Json
  | '-' :: rest => readMagnitude true rest
  | c :: rest =>
    if c.isDigit then readMagnitude false (c :: rest) else .error ⟨.noValue, c :: rest⟩
  | [] => .error ⟨.noValue, []⟩

/-- What follows the letters of a word. -/
def afterLetters : List Char → List Char → Except Complaint (List Char)
  | [], cs => .ok cs
  | _ :: _, [] => .error ⟨.endOfValue, []⟩
  | w :: word, c :: cs => if c == w then afterLetters word cs else .error ⟨.noWord, c :: cs⟩

/-- A value that is one word or a number. -/
def readWord (cs : List Char) : Reading Json :=
  match cs with
  | 't' :: rest => (afterLetters "rue".toList rest).map (.bool true, ·)
  | 'f' :: rest => (afterLetters "alse".toList rest).map (.bool false, ·)
  | 'n' :: rest => (afterLetters "ull".toList rest).map (.null, ·)
  | 'N' :: rest => (afterLetters "aN".toList rest).map (.real .undefined, ·)
  | 'I' :: rest => (afterLetters "nfinity".toList rest).map (.real (.infinite false), ·)
  | '-' :: 'I' :: rest => (afterLetters "nfinity".toList rest).map (.real (.infinite true), ·)
  | cs => readNumber cs

/-! ## Documents -/

/-- A key with its quotes, and the colon behind it. -/
def readKey : List Char → Except Complaint (String × List Char)
  | '"' :: cs => do
    let (key, rest) ← readString [] cs
    match skipGap rest with
    | ':' :: rest => return (key, rest)
    | [] => .error ⟨.endOfObject, []⟩
    | rest => .error ⟨.noColon, rest⟩
  | cs => .error ⟨.noKey, cs⟩

/-- The complaint about an object that is nested too deep, from its first key on: it is made when
the value of that key begins. -/
def depthComplaint (cs : List Char) : Complaint :=
  match readKey cs with
  | .error c => c
  | .ok (_, rest) =>
    match skipGap rest with
    | [] => ⟨.endOfValue, []⟩
    | rest => ⟨.tooDeep, rest⟩

/-- A container behind its opening bracket, given the reader of its parts, which `depth` containers
may be around.  One that is empty is never nested too deep. -/
def readContainer {α : Type} (close : Char) (ended : Flaw) (deep : List Char → Complaint)
    (wrap : List α → Json) (depth : Nat) (parts : Nat → List Char → Reading (List α))
    (cs : List Char) : Reading Json :=
  match skipGap cs with
  | [] => .error ⟨ended, []⟩
  | c :: rest =>
    if c == close then .ok (wrap [], rest)
    else
      match depth with
      | 0 => .error (deep (c :: rest))
      | depth + 1 => (parts depth (c :: rest)).map fun (xs, rest) => (wrap xs, rest)

/-- A list behind its opening bracket. -/
def readList : Nat → (Nat → List Char → Reading (List Json)) → List Char → Reading Json :=
  readContainer ']' .endOfList (fun cs => ⟨.tooDeep, cs⟩) .arr

/-- An object behind its opening brace. -/
def readObject :
    Nat → (Nat → List Char → Reading (List (String × Json))) → List Char → Reading Json :=
  readContainer '\x7d' .endOfObject depthComplaint .obj

/-- Whether another part follows in a container, and the text from it on, or else the text behind
the container. -/
def readMore (close : Char) (ended unclosed : Flaw) (cs : List Char) : Reading Bool :=
  match skipGap cs with
  | [] => .error ⟨ended, []⟩
  | c :: rest =>
    if c == close then .ok (false, rest)
    else if c == ',' then
      match skipGap rest with
      | [] => .error ⟨.endOfValue, []⟩
      | c :: rest =>
        if c == close then .error ⟨.trailingComma, c :: rest⟩ else .ok (true, c :: rest)
    else .error ⟨unclosed, c :: rest⟩

/-- What follows an item of a list. -/
def afterItem : List Char → Reading Bool :=
  readMore ']' .endOfList .noListEnd

/-- What follows a member of an object. -/
def afterMember : List Char → Reading Bool :=
  readMore '\x7d' .endOfObject .noObjectEnd

mutual

/-- One value, with at most `depth` containers around its parts.  The fuel bounds the number of
readers within each other; twice the length of the text is enough, since a container takes two. -/
def readValue (depth fuel : Nat) (cs : List Char) : Reading Json :=
  match fuel with
  | 0 => .error ⟨.endOfValue, cs⟩
  | fuel + 1 =>
    match skipGap cs with
    | [] => .error ⟨.endOfValue, []⟩
    | '"' :: rest => (readString [] rest).map fun (s, rest) => (.str s, rest)
    | '[' :: rest => readList depth (fun depth => readItems depth fuel) rest
    | '\x7b' :: rest => readObject depth (fun depth => readMembers depth fuel []) rest
    | cs => readWord cs

/-- The items of an array, up to its closing bracket. -/
def readItems (depth fuel : Nat) (cs : List Char) : Except Complaint (List Json × List Char) :=
  match fuel with
  | 0 => .error ⟨.endOfValue, cs⟩
  | fuel + 1 => do
    let (x, rest) ← readValue depth fuel cs
    let (more, rest) ← afterItem rest
    if more then
      let (xs, rest) ← readItems depth fuel rest
      return (x :: xs, rest)
    else return ([x], rest)

/-- The members of an object, up to its closing brace, added to those already read. -/
def readMembers (depth fuel : Nat) (done : List (String × Json)) (cs : List Char) :
    Except Complaint (List (String × Json) × List Char) :=
  match fuel with
  | 0 => .error ⟨.endOfValue, cs⟩
  | fuel + 1 => do
    let (key, rest) ← readKey cs
    let (value, rest) ← readValue depth fuel rest
    let (more, rest) ← afterMember rest
    let done := setMember key value done
    if more then readMembers depth fuel done rest else return (done, rest)

end

/-- Reads a text that is one document, with at most `depth` nested containers. -/
def parse (depth : Nat) (s : String) : Except Complaint Json := do
  let cs := s.toList
  let (value, rest) ← readValue depth (2 * cs.length + 1) cs
  match skipGap rest with
  | [] => return value
  | rest => .error ⟨.trailingText, rest⟩

end Json
end CrossAudit
