import CrossAudit.Toml.Assignment

/-!
# Reading values

Values nest in arrays and in tables between braces, and such a table holds assignments.  The fuel
of the readers bounds their nesting; four times the length of a text is enough, since what stands
between brackets or after an equals sign is shorter than the whole.
-/

namespace CrossAudit
namespace Toml

/-! ## Items of arrays -/

/-- Whether a text is closed by the quote that it starts with. -/
def isClosed (cs : List Char) : Bool :=
  match cs with
  | [] => true
  | c :: rest => cs.getLast? == some c && !Chars.endsEscaping rest.dropLast

/-- Whether a text that starts with three quotes has only one at its end. -/
def isLongOpen (cs : List Char) : Bool :=
  match cs with
  | a :: b :: c :: _ => a == b && b == c && ((cs.reverse.drop 1).take 2).all (· != a)
  | _ => false

/-- Joins the pieces between commas that belong to one text.  The last piece is looked at only if
something was `joined` to it. -/
def joinTexts (joined : Bool) (piece : List Char) :
    List (List Char) → Except Failure (List (List Char))
  | [] =>
    if joined && isOpen piece then outOfRange "list" else .ok [piece]
  | next :: pieces =>
    if isOpen piece then joinTexts true (piece ++ ',' :: next) pieces
    else do return piece :: (← joinTexts false next pieces)
where
  /-- Whether a piece is only the beginning of a text. -/
  isOpen (piece : List Char) : Bool :=
    !isClosed (Chars.strip piece) || isLongOpen (Chars.strip piece)

/-- Cuts the inside of an array of arrays at the commas outside of brackets; `piece` holds the
characters since the last cut, the last one first. -/
def cutNested (depth : Int) (piece : List Char) : List Char → List (List Char)
  | [] => [piece.reverse]
  | c :: rest =>
    if c == '[' then cutNested (depth + 1) (c :: piece) rest
    else if c == ']' then cutNested (depth - 1) (c :: piece) rest
    else if c == ',' && depth == 0 then piece.reverse :: cutNested depth [] rest
    else cutNested depth (c :: piece) rest

/-- A table between braces that is being read: whether a text is open in it, how many braces are,
and its characters, the last one first. -/
structure OpenTable where
  quoted : Bool := false
  depth : Nat
  piece : List Char

/-- A character of such a table. -/
def OpenTable.step (t : OpenTable) (c : Char) : OpenTable :=
  let quoted := if Text.isQuote c then !t.quoted || Chars.oddBackslashes t.piece else t.quoted
  { quoted := quoted
    depth := if !quoted && c == '\x7b' then t.depth + 1 else t.depth
    piece := c :: t.piece }

/-- The tables between braces in an array.  The character after a table, and all others up to the
next opening brace, are passed over; the last character is the bracket of the array. -/
def cutTables : Option OpenTable → List Char → List (List Char)
  | _, [] => []
  | _, [_] => []
  | none, c :: d :: rest =>
    cutTables (if c == '\x7b' then some { depth := 1, piece := [c] } else none) (d :: rest)
  | some t, c :: d :: rest =>
    let t := t.step c
    if t.quoted || c != '\x7d' then cutTables (some t) (d :: rest)
    else if 1 < t.depth then cutTables (some { t with depth := t.depth - 1 }) (d :: rest)
    else t.piece.reverse :: cutTables none rest

/-- The texts of the items of an array. -/
def arrayItems (array : List Char) : Except Failure (List (List Char)) :=
  let inside := Chars.inner 1 array
  if inside.contains '[' && (Chars.strip (inside.takeWhile (· != '['))).isEmpty then
    .ok (cutNested 0 [] inside)
  else if (Chars.strip inside).head? == some '\x7b' then
    match array.tail with
    | [] => .ok []
    | c :: rest =>
      .ok (cutTables (some { depth := if c == '\x7b' then 1 else 0, piece := [c] }) rest)
  else
    match inside.splitOn ',' with
    | [] => .ok []
    | piece :: pieces =>
      if startsWithText array then joinTexts false piece pieces else .ok (piece :: pieces)

/-! ## Assignments between braces -/

/-- Whether the value of an assignment between braces is complete. -/
def isComplete (value : List Char) : Except Failure Bool :=
  match value.head?, value.getLast? with
  | some first, some last =>
    .ok ((Text.isQuote first && first == last) || first == '-' || first.isDigit ||
      ["true".toList, "false".toList].contains value || (first == '[' && last == ']') ||
      (first == '\x7b' && last == '\x7d'))
  | _, _ => outOfRange "string"

/-- Whether a piece between commas is a whole assignment. -/
def isWholePair (piece : List Char) : Except Failure Bool :=
  match (Chars.cut '=' piece).2 with
  | none => malformed
  | some value => isComplete (Chars.strip value)

/-- Joins the pieces between commas that belong to one assignment. -/
def joinPairs (piece : List Char) : List (List Char) → Except Failure (List (List Char))
  | [] => do if ← isWholePair piece then return [piece] else malformed
  | next :: pieces => do
    if ← isWholePair piece then return piece :: (← joinPairs next pieces)
    else joinPairs (piece ++ ',' :: next) pieces

/-- The assignments between braces. -/
def inlinePairs (cs : List Char) : Except Failure (List (List Char)) :=
  match (Chars.inner 1 cs).splitOn ',' with
  | [] => .ok []
  | [piece] => if (Chars.strip piece).isEmpty then .ok [] else joinPairs piece []
  | piece :: pieces => joinPairs piece pieces

/-! ## Values -/

/-- A truth value, a time, a day or a number. -/
def readScalar (strict : Bool) (cs : List Char) : Except Failure Value :=
  let word := String.ofList cs
  if word == "true" then .ok (.truth true)
  else if word == "false" then .ok (.truth false)
  else
    match clockNumbers? cs with
    | some (h, m, s, micro) =>
      match Clock.ofNumbers? h m s micro with
      | some c => .ok (.moment (.clock c))
      | none => malformed
    | none =>
      match date? cs with
      | some m => .ok (.moment m)
      | none => if strict then readNumber cs else malformed

mutual

/-- The value that a text writes.  A number has to be written well. -/
def readValue (fuel : Nat) (strict : Bool) (cs : List Char) : Except Failure Value :=
  match fuel with
  | 0 => malformed
  | fuel + 1 =>
    match cs with
    | [] => malformed
    | c :: _ =>
      if Text.isQuote c then do return .text (← readText c cs)
      else if c == '[' then readArray fuel cs
      else if c == '\x7b' then readInline fuel cs (.table [])
      else readScalar strict cs

/-- An array: its items are of one kind, and empty ones are left out. -/
def readArray (fuel : Nat) (cs : List Char) : Except Failure Value :=
  match fuel with
  | 0 => malformed
  | fuel + 1 => do
    let items ← arrayItems cs
    let values ← items.foldlM (fun (done : List Value) item => do
      if (Chars.strip item).isEmpty then return done
      let v ← readValue fuel true (Chars.strip item)
      if done.head?.any (·.kind != v.kind) then malformed
      return done ++ [v]) []
    return .array values

/-- Carries out the assignments between braces, up to one that is not complete. -/
def readInline (fuel : Nat) (cs : List Char) (table : Value) : Except Failure Value :=
  match fuel with
  | 0 => malformed
  | fuel + 1 => do
    let pairs ← inlinePairs cs
    let done ← pairs.foldlM (fun (done : Value × Bool) pair => do
      if done.2 then return done
      let (table, pending) ← assign fuel pair done.1
      return (table, pending.isSome)) (table, false)
    return done.1

/-- Carries out an assignment.  If its value is a long text that goes on in the next line, that is
given back. -/
def assign (fuel : Nat) (line : List Char) (table : Value) :
    Except Failure (Value × Option Pending) :=
  match fuel with
  | 0 => malformed
  | fuel + 1 => do
    let pair ← cutPair line
    let (path, name) ← keyPath pair.key
    let table ← changeBelow path (fun v => do
      if ← goesOn pair.value then
        let _ ← setFree name (.truth false) v
        return v
      else setFree name (← readValue fuel pair.strict pair.value) v) table
    let goesOn ← goesOn pair.value
    return (table, if goesOn then some (.extend name pair.value) else none)

end

/-- Enough fuel to read a text. -/
def fuelFor (cs : List Char) : Nat :=
  4 * (cs.length + 1)

end Toml
end CrossAudit
