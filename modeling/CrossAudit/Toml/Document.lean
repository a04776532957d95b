import CrossAudit.Toml.Reader
import CrossAudit.Toml.Scan

/-!
# Configurations

A configuration is read line by line.  A header says which table the following assignments go to.
The tables on the way to it are made if they are not there; a table that was only made on the way
may still get a header of its own, any other table has at most one.
-/

namespace CrossAudit
namespace Toml

/-! ## Places -/

/-- A step to a value inside another one: a member of a table, or the last item of an array. -/
inductive Step where
  | member (name : String)
  | last
  deriving Repr, DecidableEq

/-- The last item of a value. -/
def Value.lastItem (v : Value) : Except Failure Value :=
  match v with
  | .array xs => (xs.getLast?.map .ok).getD (outOfRange "list")
  | .text s => (s.toList.getLast?.map fun c => .ok (.text (String.singleton c))).getD
      (outOfRange "string")
  | v => .error (.fault (.notSubscriptable v.shapeName))

/-- The value at a place; what is not there counts as an empty table. -/
def Value.follow (v : Value) : List Step → Value
  | [] => v
  | .member name :: path =>
    match v with
    | .table ms => ((ms.lookup name).getD (.table [])).follow path
    | _ => .table []
  | .last :: path => ((v.lastItem).toOption.getD (.table [])).follow path

/-- Changes the value at a place. -/
def Value.change (f : Value → Except Failure Value) : List Step → Value → Except Failure Value
  | [], v => f v
  | .member name :: path, v =>
    match v with
    | .table ms => do
      let inner ← Value.change f path ((ms.lookup name).getD (.table []))
      return .table (Assoc.set name inner ms)
    | v => .ok v
  | .last :: path, v =>
    match v with
    | .array xs => do
      let inner ← Value.change f path (xs.getLast?.getD (.table []))
      return .array (xs.dropLast ++ [inner])
    | v => .ok v

/-- What was read so far: the configuration, the place that assignments go to, the names of the
tables that were only made on the way to others, and a long text that is not closed. -/
structure Draft where
  root : Value := .table []
  here : List Step := []
  implied : List String := []
  pending : Option Pending := none

/-! ## Headers -/

/-- The name between the quotes of a text, if it is closed. -/
def quotedName? (cs : List Char) : Option String :=
  let closed := Chars.strip cs
  if 1 < closed.length && closed.head? == closed.getLast? then
    some (String.ofList (Chars.inner 1 closed))
  else none

/-- The names of a header, given its pieces between dots.  A quoted name may hold dots itself;
`started` is the beginning of such a name. -/
def headerNames (started : Option (List Char)) :
    List (List Char) → Except Failure (List String)
  | [] => if started.isSome then malformed else .ok []
  | group :: groups =>
    let text :=
      match started with
      | some opening => opening ++ '.' :: group
      | none => Chars.strip group
    if started.isSome || text.head?.any Text.isQuote then
      match quotedName? text with
      | some name => do return name :: (← headerNames none groups)
      | none => headerNames (some text) groups
    else if isBareName text then do
      return String.ofList text :: (← headerNames none groups)
    else malformed

/-- The names of a header, given what follows its opening brackets. -/
def readHeader (tables : Bool) (cs : List Char) : Except Failure (List String) :=
  let closing := if tables then [']', ']'] else [']']
  let count := 1 + quotedBefore closing false (quotePieces cs)
  let pieces := Chars.splitTextUpTo count closing cs
  match pieces.getLast? with
  | some last =>
    if pieces.length < count + 1 || !(Chars.strip last).isEmpty then malformed
    else
      headerNames none ((Chars.joinText closing pieces.dropLast).splitOn '.')
  | none => malformed

/-- The empty table of a header, or the array of tables with one. -/
def emptyTable (tables : Bool) : Value :=
  if tables then .array [.table []] else .table []

/-- What the last name of a header does to a value that is already there. -/
def reopen (tables : Bool) (name : String) (v : Value) (d : Draft) :
    Except Failure (Value × List String) :=
  if d.implied.contains name then
    if tables then malformed else .ok (v, d.implied.erase name)
  else if tables then
    match v with
    | .array xs => .ok (.array (xs ++ [.table []]), d.implied)
    | _ => .error (.fault .notLoadable)
  else malformed

/-- Goes to a member of the table at the place of a draft, for a name of a header.  `final` says
whether it is the last name. -/
def enterTable (tables final : Bool) (name : String) (ms : Table) (d : Draft) :
    Except Failure Draft := do
  let (value, implied) ←
    match ms.lookup name with
    | some v => if final then reopen tables name v d else pure (v, d.implied)
    | none =>
      pure (emptyTable (tables && final), if final then d.implied else d.implied ++ [name])
  let root ← d.root.change (fun _ => .ok (.table (Assoc.set name value ms))) d.here
  return { d with root := root, here := d.here ++ [.member name], implied := implied }

/-- Goes to a member of the last item of a value that is no table, for a name of a header. -/
def enterItem (tables final : Bool) (name : String) (v : Value) (d : Draft) :
    Except Failure Draft := do
  let item ← v.lastItem
  let here := d.here ++ [.last]
  match item with
  | .table ms =>
    let value := (ms.lookup name).getD (emptyTable (tables && final))
    let root ← d.root.change (fun _ => .ok (.table (Assoc.set name value ms))) here
    return { d with root := root, here := here ++ [.member name] }
  | .array _ => .error (.fault .listPositions)
  | .text s => .error (.fault (if s == name then .textPositions else .notAssignable "str"))
  | v => .error (.fault (.notSearchable v.shapeName))

/-- In the header of an array of tables, each name leads to the last item of its array. -/
def enterLast (d : Draft) : Except Failure Draft :=
  match d.root.follow d.here with
  | .table _ => .ok d
  | v => do
    let _ ← v.lastItem
    return { d with here := d.here ++ [.last] }

/-- One name of a header. -/
def enter (tables final : Bool) (name : String) (d : Draft) : Except Failure Draft := do
  if name == "" then malformed
  let d ←
    match d.root.follow d.here with
    | .table ms => enterTable tables final name ms d
    | v => enterItem tables final name v d
  if tables then enterLast d else return d

/-- All names of a header. -/
def enterAll (tables : Bool) : List String → Draft → Except Failure Draft
  | [], d => .ok d
  | name :: names, d => do enterAll tables names (← enter tables names.isEmpty name d)

/-- A line with a header. -/
def Draft.header (d : Draft) (line : List Char) : Except Failure Draft := do
  let d := { d with here := [] }
  match line with
  | '[' :: '[' :: rest => enterAll true (← readHeader true rest) d
  | '[' :: c :: rest => enterAll false (← readHeader false (c :: rest)) d
  | _ => malformed

/-! ## Lines -/

/-- A line with an assignment. -/
def Draft.assign (d : Draft) (line : List Char) : Except Failure Draft := do
  let (value, pending) ← Toml.assign (fuelFor line) line (d.root.follow d.here)
  let root ← d.root.change (fun _ => .ok value) d.here
  return { d with root := root, pending := pending }

/-- A line with assignments between braces. -/
def Draft.inline (d : Draft) (line : List Char) : Except Failure Draft := do
  if line.getLast? != some '\x7d' then malformed
  let root ← d.root.change (readInline (fuelFor line) line) d.here
  return { d with root := root }

/-- Whether the last line of a long text closes it. -/
def closesText (opening : Option Char) (line : List Char) : Except Failure Bool :=
  if opening == some '[' then
    match line.getLast? with
    | some c => .ok (c == ']')
    | none => outOfRange "string"
  else .ok (2 < line.length && (line.reverse.take 3).all (some · == opening))

/-- A line of a long text.  Its value takes the place of one that is already there. -/
def Draft.extend (d : Draft) (p : Pending) (line : List Char) : Except Failure Draft := do
  let text := p.text ++ line
  if ← closesText text.head? line then
    let value ← readValue (fuelFor text) true text
    let root ← d.root.change (fun v =>
      match v with
      | .table ms => .ok (.table (Assoc.set p.name value ms))
      | v => .ok v) d.here
    return { d with root := root, pending := none }
  else return { d with pending := some (.extend p.name text) }

/-- One line.  Blanks around it do not count, unless it belongs to a long text that has had a line
end before. -/
def Draft.read (d : Draft) (line : List Char) : Except Failure Draft :=
  match d.pending with
  | some p =>
    let line := if !p.joining && p.text.contains '\n' then line else Chars.strip line
    if line.isEmpty && p.joining then .ok d else d.extend p line
  | none =>
    let line := Chars.strip line
    match line with
    | [] => .ok d
    | c :: _ =>
      if c == '[' then d.header line
      else if c == '\x7b' then d.inline line
      else if line.contains '=' then d.assign line
      else .ok d

/-- Reads a configuration. -/
def parse (text : String) : Except Failure Table := do
  let lines ← Scan.lines text.toList
  let d ← lines.foldlM Draft.read {}
  match d.root with
  | .table ms => return ms
  | _ => return []

end Toml
end CrossAudit
