import CrossAudit.Text.Search
import CrossAudit.Text.Word
import CrossAudit.Toml.Value

/-!
# Lines of a configuration

A first walk through the characters of a configuration.  It blanks comments out, turns the line
ends inside arrays into blanks, and refuses texts whose keys or quotes are not complete.  What it
leaves is a list of lines, each of them a header, an assignment, or a part of a long text.

The walk looks back at quotes and backslashes before a character as if the text were a ring: before
the first character stands the last one.
-/

namespace CrossAudit
namespace Toml
namespace Scan

/-- Where the walk is with regard to a key: outside, in a name, or after a name. -/
inductive KeyPhase where
  | outside
  | name
  | after
  deriving Repr, DecidableEq

/-- Where the walk is with regard to a header: outside, in the header of a table, or in the header
of an array of tables. -/
inductive HeaderPhase where
  | outside
  | table
  | tables
  deriving Repr, DecidableEq

/-- The state of the walk.

* `key`, `dotted`: the phase of a key, and whether it has had a dot;
* `quote`, `long`: the quote that is open, and whether a long text is;
* `header`, `depth`: the phase of a header, and the number of open brackets;
* `fresh`, `comment`: whether the line has only had blanks, and whether it is in a comment;
* `before`: the characters that were passed, the last one first. -/
structure State where
  key : KeyPhase := .outside
  dotted : Bool := false
  quote : Option Char := none
  long : Bool := false
  header : HeaderPhase := .outside
  depth : Int := 0
  fresh : Bool := true
  comment : Bool := false
  before : List Char := []
  deriving Repr

/-- Passes a character. -/
def State.pass (s : State) (c : Char) : State :=
  { s with before := c :: s.before }

/-! ## Keys -/

/-- The key ends at an equals sign; nothing else may stand there. -/
def endKey (c : Char) (s : State) : Except Failure State :=
  if c == '=' then .ok { s with key := .outside, dotted := false } else .error .malformed

/-- After a dot, or a blank in a dotted key: a name starts with the next character, unless that is
a blank or a dot.  There has to be a next character. -/
def resumeKey (next : Option Char) (s : State) : Except Failure State :=
  match next with
  | none => .error (.fault (.outOfRange "list"))
  | some d => .ok (if Text.isBlank d || d == '.' then s else { s with key := .name })

/-- A character of a key. -/
def stepKey (next : Option Char) (c : Char) (s : State) : Except Failure State :=
  if c == '\n' then .error .malformed
  else
    match s.quote with
    | some q =>
      .ok (if c == q && !Chars.oddBackslashes s.before then { s with key := .after, quote := none }
        else s)
    | none =>
      if s.key == .name then
        if Text.isBlank c then .ok { s with key := .after }
        else if c == '.' then .ok { s with dotted := true }
        else if Text.isLetterOrNumber c || c == '_' || c == '-' then .ok s
        else if (c == '"' || c == '\'') && s.dotted && s.before.head? == some '.' then
          .ok { s with quote := some c }
        else endKey c s
      else if Text.isBlank c then if s.dotted then resumeKey next s else .ok s
      else if c == '.' then resumeKey next { s with dotted := true }
      else endKey c s

/-! ## Other characters -/

/-- A quote opens or closes a text, unless a text with the other quote is open.  The third quote in
a row opens or closes a long text.  A double quote may be escaped. -/
def stepQuote (c : Char) (s : State) : State :=
  if s.quote.any (· != c) then s
  else
    let run := ((s.before.take 2).takeWhile (· == c)).length
    let escaped := c == '"' && run != 1 && Chars.oddBackslashes (s.before.drop run)
    if escaped then s
    else if run == 2 then { s with long := !s.long, quote := if s.long then none else some c }
    else { s with quote := if s.quote.isSome then none else some c }

/-- An opening bracket starts a header at the beginning of a line, and an array elsewhere. -/
def stepOpen (next : Option Char) (s : State) : State :=
  if s.quote.isSome || s.header != .outside then s
  else if s.fresh then { s with header := if next == some '[' then .tables else .table }
  else { s with depth := s.depth + 1 }

/-- A closing bracket ends a header or an array; the header of an array of tables needs two. -/
def stepClose (s : State) : State :=
  if s.quote.isSome then s
  else
    match s.header with
    | .table => { s with header := .outside }
    | .tables => if s.before.head? == some ']' then { s with header := .outside } else s
    | .outside => { s with depth := s.depth - 1 }

/-- The characters before a line end inside a long text, and the character that stands for the line
end.  Right after two quotes, the line end becomes a third one, in place of the one before them. -/
def joinQuotes : List Char → List Char × Char
  | q :: p :: before =>
    if (q == '\'' || q == '"') && p == q then
      match before with
      | o :: rest => (q :: p :: (if o == q then ' ' else o) :: rest, q)
      | [] => ([q, p], q)
    else (q :: p :: before, '\n')
  | before => (before, '\n')

/-- The end of a line. -/
def stepFeed (s : State) : Except Failure State :=
  if s.long then
    let (before, c) := joinQuotes s.before
    .ok { s with before := c :: before }
  else if s.quote.isSome then .error .malformed
  else if s.depth != 0 then .ok (s.pass ' ')
  else .ok { s.pass '\n' with fresh := true }

/-- The first character of a line that is no blank starts a key, unless it starts a header. -/
def startLine (c : Char) (s : State) : Except Failure State :=
  if !s.fresh || c == ' ' || c == '\t' then .ok s
  else if s.header != .outside then .ok { s with fresh := false }
  else if c == '=' then .error .malformed
  else .ok { s with fresh := false, key := .name }

/-- A character outside keys and comments. -/
def stepPlain (next : Option Char) (c : Char) (s : State) : Except Failure State :=
  if c == '\n' then stepFeed s
  else if c == '#' && s.quote.isNone && s.header == .outside then
    .ok { s.pass ' ' with comment := true }
  else do
    let stepped :=
      if c == '"' || c == '\'' then stepQuote c s
      else if c == '[' then stepOpen next s
      else if c == ']' then stepClose s
      else s
    return (← startLine c stepped).pass c

/-- One character, with the one after it. -/
def step (next : Option Char) (c : Char) (s : State) : Except Failure State :=
  if s.key != .outside then return (← stepKey next c s).pass c
  else if s.comment then
    if c == '\n' then stepPlain next c { s with comment := false } else .ok (s.pass ' ')
  else stepPlain next c s

/-- The walk through a text. -/
def walk (s : State) : List Char → Except Failure State
  | [] => .ok s
  | c :: rest => do walk (← step rest.head? c s) rest

/-- The text that the walk leaves.  At the end, no key and no text is open. -/
def text (cs : List Char) : Except Failure (List Char) := do
  let s ← walk { before := cs.reverse } cs
  if s.key != .outside || s.quote.isSome then .error .malformed
  return (s.before.take cs.length).reverse

/-- The lines of a configuration. -/
def lines (cs : List Char) : Except Failure (List (List Char)) := do
  return (← text cs).splitOn '\n'

end Scan
end Toml
end CrossAudit
