import CrossAudit.Text.Quoted
import CrossAudit.Toml.Value

/-!
# Writing configurations

A table is written as its plain members and its arrays of tables, followed by the tables inside it,
level by level, each under a header that spells out the way to it.

Texts are written as messages quote them, between double quotes.  A character that is quoted by its
two-digit code is not kept: its backslash is lost, unless the text before it ends with one.
-/

namespace CrossAudit
namespace Toml

/-! ## Texts and keys -/

/-- Undoes the doubling of backslashes. -/
def singleBackslashes (cs : List Char) : List Char :=
  Chars.replaceAll ['\\', '\\'] ['\\'] cs

/-- What joins a text to the code after it.  This is a plain letter after a text that ends with no
backslash, with an odd number of them, or that is nothing but an even number of them; otherwise
it is the rest of a mark for four digits. -/
def codeJoint (cs : List Char) : List Char :=
  let slashes := (cs.reverse.takeWhile (· == '\\')).length
  let isOdd := slashes % 2 == 1
  if slashes == 0 || (if slashes == cs.length then !isOdd else isOdd) then ['x']
  else "u00".toList

/-- Joins the pieces of a quoted text between its two-digit codes.  A code at the very beginning
has nothing to be joined to. -/
def joinCodes (piece : List Char) : List (List Char) → Except Fault (List Char)
  | [] => .ok piece
  | next :: pieces =>
    if piece.isEmpty then
      match pieces with
      | [] => .error (.outOfRange "list")
      | second :: rest => joinCodes (joined next second) rest
    else joinCodes (joined piece next) pieces
where
  /-- Two pieces with the code between them. -/
  joined (piece next : List Char) : List Char :=
    let piece := singleBackslashes piece
    piece ++ codeJoint piece ++ next

/-- The inside of a text between quotes, as messages write it, but with double quotes escaped. -/
def quotedInside (s : String) : List Char :=
  let quoted := (Quoted.quote s).toList
  let inside := Chars.inner 1 quoted
  if quoted.head? == some '\'' then
    Chars.replaceAll ['"'] ['\\', '"'] (Chars.replaceAll ['\\', '\''] ['\''] inside)
  else inside

/-- A text. -/
def textLiteral (s : String) : Except Fault String := do
  let inside ←
    match Chars.splitText ['\\', 'x'] (quotedInside s) with
    | [] => pure []
    | piece :: pieces => joinCodes piece pieces
  return "\"" ++ String.ofList inside ++ "\""

/-- A key, between quotes if it needs them; a final line feed alone does not make it need them. -/
def keyLiteral (key : String) : Except Fault String :=
  if Chars.holdsToEnd isBareName key.toList then .ok key else textLiteral key

/-! ## Values -/

mutual

/-- A plain value.  Inside an array, a table is written as the list of its keys. -/
def valueLiteral : Value → Except Fault String
  | .text s => textLiteral s
  | .integer n => .ok (toString n)
  | .real x => .ok (Decimal.text Decimal.setting x)
  | .truth b => .ok (if b then "true" else "false")
  | .moment m => .ok m.setting
  | .array xs => do return "[" ++ (← itemsLiteral xs) ++ "]"
  | .table ms => do return "[" ++ (← keysLiteral ms) ++ "]"

/-- The items of an array, each with a blank before it and a comma after it. -/
def itemsLiteral : List Value → Except Fault String
  | [] => .ok ""
  | x :: xs => do
    let item ← valueLiteral x
    return " " ++ item ++ "," ++ (← itemsLiteral xs)

/-- The keys of a table as items. -/
def keysLiteral : List (String × Value) → Except Fault String
  | [] => .ok ""
  | (k, _) :: ms => do
    let item ← textLiteral k
    return " " ++ item ++ "," ++ (← keysLiteral ms)

end

/-! ## Tables -/

/-- The table of a value. -/
def tableOf : Value → Table
  | .table ms => ms
  | _ => []

/-- The members of an item of an array with tables in it.  An item that is no table is run through
like one, and fails at the first of its elements. -/
def membersOf : Value → Except Fault Table
  | .table ms => .ok ms
  | .text s =>
    match s.toList with
    | [] => .ok []
    | c :: _ => do
      let _ ← keyLiteral (String.singleton c)
      throw .textPositions
  | .array [] => .ok []
  | .array (x :: _) => do
    if let .text s := x then let _ ← keyLiteral s
    throw .listPositions
  | v => .error (.notIterable v.shapeName)

/-- Whether a value is an array with tables in it. -/
def hasTables : Value → Bool
  | .array xs => xs.any fun x => x.kind == .table
  | _ => false

/-- The way to a member, given the way to its table. -/
def extendPath (path key : String) : String :=
  if path == "" then key else path ++ "." ++ key

/-- The tables inside a table, with their keys. -/
def innerTables (ms : Table) : Except Fault (List (String × Table)) := do
  let inner ← (ms.filter fun m => m.2.kind == .table).mapM fun m => do
    return (← keyLiteral m.1, tableOf m.2)
  return Assoc.ofPairs inner

/-- The tables one level below some tables, each with the way to it. -/
def nextLevel (tables : List (String × Table)) : Except Fault (List (String × Table)) := do
  let inner ← tables.mapM fun t => do
    return (← innerTables t.2).map fun m => (t.1 ++ "." ++ m.1, m.2)
  return Assoc.ofPairs inner.flatten

/-- The lines of the plain members of a table. -/
def plainLines (ms : Table) : Except Fault String := do
  let lines ← (ms.filter fun m => m.2.kind != .table && !hasTables m.2).mapM fun m => do
    let key ← keyLiteral m.1
    return key ++ " = " ++ (← valueLiteral m.2) ++ "\n"
  return String.join lines

mutual

/-- The lines of a table: its plain members, and its arrays of tables.  The fuel bounds the nesting
of tables. -/
def tableLines (fuel : Nat) (path : String) (ms : Table) : Except Fault String :=
  match fuel with
  | 0 => .ok ""
  | fuel + 1 => do
    let arrays ← (ms.filter fun m => hasTables m.2).mapM fun m => do
      let here := extendPath path (← keyLiteral m.1)
      match m.2 with
      | .array xs =>
        return String.join (← xs.mapM fun x => do itemLines fuel here (← membersOf x))
      | _ => return ""
    return (← plainLines ms) ++ String.join arrays

/-- The lines of one table of an array, and those of the tables inside it after a blank line.  If it
has no plain members, its arrays of tables come after the blank line, too. -/
def itemLines (fuel : Nat) (path : String) (ms : Table) : Except Fault String :=
  match fuel with
  | 0 => .ok ""
  | fuel + 1 => do
    let own ← tableLines fuel path ms
    let below ← levelLines fuel path (← innerTables ms)
    let header := "[[" ++ path ++ "]]\n"
    return if Text.startsWith own "[" then header ++ "\n" ++ own ++ below
      else header ++ own ++ "\n" ++ below

/-- The lines of the tables inside a table of an array, level by level; a table without lines of
its own has no header. -/
def levelLines (fuel : Nat) (path : String) (tables : List (String × Table)) :
    Except Fault String :=
  match fuel with
  | 0 => .ok ""
  | fuel + 1 =>
    if tables.isEmpty then .ok ""
    else do
      let lines ← tables.mapM fun t => do
        let here := extendPath path t.1
        let own ← tableLines fuel here t.2
        return if own == "" then "" else "[" ++ here ++ "]\n" ++ own
      return String.join lines ++ (← levelLines fuel path (← nextLevel tables))

end

/-! ## Configurations -/

mutual

/-- How deep the tables and arrays of a value nest. -/
def depth : Value → Nat
  | .array xs => itemsDepth xs + 1
  | .table ms => membersDepth ms + 1
  | _ => 0

/-- How deep the items of an array nest. -/
def itemsDepth : List Value → Nat
  | [] => 0
  | x :: xs => max (depth x) (itemsDepth xs)

/-- How deep the members of a table nest. -/
def membersDepth : List (String × Value) → Nat
  | [] => 0
  | (_, v) :: ms => max (depth v) (membersDepth ms)

end

/-- Appends a table with its header, after a blank line.  A table that only leads to others has no
header. -/
def appendTable (fuel : Nat) (done : String) (t : String × Table) : Except Fault String := do
  let own ← tableLines fuel t.1 t.2
  let inner ← innerTables t.2
  if own == "" && !inner.isEmpty then return done
  let gap := if done == "" || Text.endsWith done "\n\n" then "" else "\n"
  return done ++ gap ++ "[" ++ t.1 ++ "]\n" ++ own

/-- Appends tables, and then those inside them. -/
def appendLevels : Nat → String → List (String × Table) → Except Fault String
  | 0, done, _ => .ok done
  | fuel + 1, done, tables =>
    if tables.isEmpty then .ok done
    else do
      let done ← tables.foldlM (appendTable (4 * fuel + 4)) done
      appendLevels fuel done (← nextLevel tables)

/-- The text of a configuration. -/
def render (config : Table) : Except Fault String := do
  let levels := depth (.table config) + 1
  let done ← tableLines (4 * levels) "" config
  appendLevels levels done (← innerTables config)

end Toml
end CrossAudit
