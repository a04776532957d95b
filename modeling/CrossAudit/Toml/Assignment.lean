import CrossAudit.Toml.Numeral

/-!
# Assignments

An assignment is a key, an equals sign and a value.  The key may have dots, which lead into tables;
the value may be a long text that goes on in the next lines.
-/

namespace CrossAudit
namespace Toml

/-- A key with the text of its value, and whether this is written well if it is a number. -/
structure Pair where
  key : List Char
  value : List Char
  strict : Bool

/-- A long text that is not closed yet: the name it is set under, what was read of it, and whether
the next line is joined to it without a line end. -/
structure Pending where
  name : String
  text : List Char
  joining : Bool
  deriving Repr

/-! ## The equals sign -/

/-- The text after the equals sign of a given number, or after the last one. -/
def valueAfter (pieces : List (List Char)) (count : Nat) : List Char :=
  Chars.joinText ['='] (pieces.drop (min count (pieces.length - 1)))

/-- Whether a value may follow an equals sign at once.  Everything may that starts with a blank, a
quote or a bracket; besides them numbers, days, times and truth values. -/
def mayFollow (value : List Char) : Bool :=
  match value with
  | [] => true
  | c :: _ =>
    [' ', '\t', '\'', '"', '[', '\x7b'].contains c ||
      ["true".toList, "false".toList].contains (Chars.strip value) ||
      (Text.number? (String.ofList value)).isSome || (date? value).isSome ||
      (clockNumbers? value).isSome

/-- Looks for the equals sign between key and value: the first one from a given number on whose
value may follow it.  The fuel bounds the number of equals signs. -/
def settle (pieces : List (List Char)) :
    Nat → Nat → List Char → Bool → Except Failure (Nat × List Char × Bool)
  | 0, _, _, _ => malformed
  | fuel + 1, count, value, strict =>
    if mayFollow value then .ok (count, value, strict)
    else
      let next := valueAfter pieces (count + 1)
      if next == value then malformed
      else settle pieces fuel (count + 1) next (strict && isStrict next)

/-- Cuts an assignment into key and value. -/
def cutPair (line : List Char) : Except Failure Pair := do
  let pieces := line.splitOn '='
  let first := 1 + quotedBefore ['='] false (quotePieces line)
  let raw := valueAfter pieces first
  let value := if raw.head?.any Char.isDigit then raw.filter (· != '_') else raw
  let (count, value, strict) ← settle pieces (pieces.length + 2) first value (isStrict raw)
  let key := Chars.joinText ['='] (pieces.take (min count (pieces.length - 1)))
  return ⟨Chars.strip key, Chars.strip value, strict⟩

/-! ## Keys -/

/-- The levels of a dotted key with quotes: a quoted piece is one level. -/
def quotedLevels (quoted : Bool) : List (List Char) → List (List Char)
  | [] => []
  | piece :: pieces =>
    (if quoted then [piece] else (piece.splitOn '.').map Chars.strip) ++
      quotedLevels (!quoted) pieces

/-- The levels of a dotted key; empty ones at the end do not count. -/
def levels (key : List Char) : List (List Char) :=
  let all := if key.any Text.isQuote then quotedLevels false (quotePieces key) else key.splitOn '.'
  (all.reverse.dropWhile (·.isEmpty)).reverse

/-- The tables that a key leads through, and the name in the last one. -/
def keyPath (key : List Char) : Except Failure (List String × String) :=
  if key.contains '.' then
    match (levels key).getLast? with
    | none => outOfRange "list"
    | some last => .ok (((levels key).dropLast.filter (!·.isEmpty)).map String.ofList,
        String.ofList (Chars.strip last))
  else
    match key.head?, key.getLast? with
    | some first, some last =>
      if Text.isQuote first && last == first then do
        return ([], String.ofList (← unescape (Chars.inner 1 key)))
      else .ok ([], String.ofList key)
    | _, _ => outOfRange "string"

/-- Changes the value at the end of some levels, making the tables on the way. -/
def changeBelow : List String → (Value → Except Failure Value) → Value → Except Failure Value
  | [], change, v => change v
  | level :: levels, change, v =>
    match v with
    | .table ms => do
      let inner ← changeBelow levels change ((ms.lookup level).getD (.table []))
      return .table (Assoc.set level inner ms)
    | .array _ => .error (.fault .listPositions)
    | .text s =>
      .error (.fault (if Text.contains s level then .textPositions else .notAssignable "str"))
    | v => .error (.fault (.notSearchable v.shapeName))

/-- Sets a name that is still free. -/
def setFree (name : String) (value : Value) : Value → Except Failure Value
  | .table ms =>
    if (ms.lookup name).isSome then malformed else .ok (.table (ms ++ [(name, value)]))
  | _ => malformed

/-! ## Long texts -/

/-- Whether an array starts with a text. -/
def startsWithText (array : List Char) : Bool :=
  (Chars.strip (Chars.inner 1 array)).head?.any Text.isQuote

/-- The last item of an array of texts that is not closed, given its pieces between commas, the
last one first: a piece that starts with no quote belongs to the item of the piece before it. -/
def lastText (piece : List Char) : List (List Char) → Except Failure (List Char)
  | [] => .ok piece
  | before :: pieces =>
    match piece.head? with
    | none => outOfRange "string"
    | some c => if Text.isQuote c then .ok piece else lastText (before ++ ',' :: piece) pieces

/-- Whether a text opens a long text and does not close it. -/
def opensLong : List Char → Except Failure Bool
  | [] => .ok false
  | [q] => if Text.isQuote q then outOfRange "string" else .ok false
  | q :: p :: rest =>
    if !Text.isQuote q || p != q then .ok false
    else
      match rest with
      | [] => outOfRange "string"
      | r :: more =>
        .ok (r == q && !(3 ≤ more.length && (more.reverse.take 3).all (· == q)))

/-- Whether a value goes on in the next line. -/
def goesOn (value : List Char) : Except Failure Bool :=
  if value.length < 3 then .ok false
  else if value.head? == some '[' && value.getLast? != some ']' && startsWithText value then
    match ((Chars.strip value.tail).splitOn ',').reverse with
    | [] => .ok false
    | piece :: pieces => do opensLong (← lastText piece pieces)
  else opensLong value

/-- A text with the next line joined to it. -/
def Pending.extend (name : String) (text : List Char) : Pending :=
  if Chars.endsEscaping text then ⟨name, text.dropLast, true⟩ else ⟨name, text ++ ['\n'], false⟩

end Toml
end CrossAudit
