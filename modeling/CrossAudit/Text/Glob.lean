import CrossAudit.Text.Search

/-!
# Glob patterns

`*` stands for any text, `?` for any character, and `[...]` for one character of a set, or, when
the set opens with `!`, for one outside it.  A bracket that is never closed stands for itself.  In
a set, a hyphen between two characters spans the range between them; a range whose ends are in
the wrong order holds nothing.  The separator of a path is a character like any other.
-/

namespace CrossAudit
namespace Glob

/-- One position of a pattern. -/
inductive Token where
  | star
  | any
  | char (c : Char)
  | set (negated : Bool) (ranges : List (Char × Char))
  deriving Repr, DecidableEq

/-! ## Sets -/

/-- Cuts the inside of a set at the hyphens that span ranges.  `wait` counts the characters
that cannot be such a hyphen: the first of the set, and the two after a range was opened. -/
def chunksFrom : Nat → List Char → List Char → List (List Char)
  | _, chunk, [] => [chunk.reverse]
  | wait + 1, chunk, c :: rest => chunksFrom wait (c :: chunk) rest
  | 0, chunk, c :: rest =>
    if c == '-' then chunk.reverse :: chunksFrom 2 [] rest else chunksFrom 0 (c :: chunk) rest

/-- The chunks of a set; a hyphen at the very end belongs to the chunk before it. -/
def chunks (inside : List Char) : List (List Char) :=
  let found := chunksFrom (if inside.head? == some '!' then 2 else 1) [] inside
  match found.reverse with
  | [] :: last :: more => ((last ++ ['-']) :: more).reverse
  | _ => found

/-- Joins two neighbouring chunks whose range is empty, dropping both of its ends. -/
def joinEmptyRange (chunk : List Char) : List (List Char) → List (List Char)
  | [] => [chunk]
  | next :: more =>
    match chunk.getLast?, next with
    | some low, high :: rest =>
      if high < low then (chunk.dropLast ++ rest) :: more else chunk :: next :: more
    | _, _ => chunk :: next :: more

/-- The ranges that neighbouring chunks span, and the single characters between them.  `inner`
says that the first character of the chunk already ends a range. -/
def rangesOf : Bool → List (List Char) → List (Char × Char)
  | _, [] => []
  | inner, [chunk] => (if inner then chunk.drop 1 else chunk).map fun c => (c, c)
  | inner, chunk :: next :: more =>
    let singles := (if inner then chunk.drop 1 else chunk).dropLast
    let span :=
      match chunk.getLast?, next.head? with
      | some low, some high => [(low, high)]
      | _, _ => []
    singles.map (fun c => (c, c)) ++ span ++ rangesOf true (next :: more)

/-- The ranges behind the mark of a negated set.  Where dropping an empty range has left a hyphen
right behind the mark, that hyphen stands for itself. -/
def rangesBehindMark : List Char → List (List Char) → List (Char × Char)
  | [], next :: more => ('-', '-') :: rangesOf false (next :: more)
  | first, more => rangesOf false (first :: more)

/-- Reads the inside of a set.  The mark of negation may only come to its front when an empty range
before it is dropped. -/
def setToken (inside : List Char) : Token :=
  match (chunks inside).foldr joinEmptyRange [] with
  | ('!' :: first) :: more => .set true (rangesBehindMark first more)
  | all => .set false (rangesOf false all)

/-- The inside of a set whose bracket was just opened and the pattern after it, if it closes. -/
def closeSet? (cs : List Char) : Option (List Char × List Char) :=
  let lead := if cs.head? == some '!' then 1 else 0
  let lead := if (cs.drop lead).head? == some ']' then lead + 1 else lead
  let inside := (cs.drop lead).takeWhile (· != ']')
  match (cs.drop lead).dropWhile (· != ']') with
  | [] => none
  | _ :: rest => some (cs.take lead ++ inside, rest)

/-! ## Patterns -/

/-- The walk behind `parse`: `skip` characters already belong to the last set. -/
def parseFrom : Nat → List Char → List Token
  | _, [] => []
  | skip + 1, _ :: rest => parseFrom skip rest
  | 0, c :: rest =>
    if c == '*' then .star :: parseFrom 0 rest
    else if c == '?' then .any :: parseFrom 0 rest
    else if c == '[' then
      match closeSet? rest with
      | some (inside, _) => setToken inside :: parseFrom (inside.length + 1) rest
      | none => .char '[' :: parseFrom 0 rest
    else .char c :: parseFrom 0 rest

/-- Reads a pattern. -/
def parse (pattern : String) : List Token :=
  parseFrom 0 pattern.toList

/-- Whether a set holds a character. -/
def inSet (negated : Bool) (ranges : List (Char × Char)) (c : Char) : Bool :=
  (ranges.any fun r => r.1 ≤ c && c ≤ r.2) != negated

/-- Whether a token other than the star takes a character. -/
def Token.takes (t : Token) (c : Char) : Bool :=
  match t with
  | .star | .any => true
  | .char want => c == want
  | .set negated ranges => inSet negated ranges c

/-- At each place, whether something holds there or later. -/
def orLater : List Bool → List Bool
  | [] => []
  | b :: rest =>
    let later := orLater rest
    (b || later.headD false) :: later

/-- For every final segment of a text, the longest first, whether a pattern covers it.  Each token
is looked at once for each segment. -/
def covered (cs : List Char) : List Token → List Bool
  | [] => cs.map (fun _ => false) ++ [true]
  | .star :: rest => orLater (covered cs rest)
  | t :: rest =>
    List.zipWith (fun c after => t.takes c && after) cs (covered cs rest).tail ++ [false]

/-- Whether a text matches a pattern. -/
def isMatch (pattern text : String) : Bool :=
  (covered text.toList (parse pattern)).headD false

end Glob
end CrossAudit
