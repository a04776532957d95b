/-!
# Searching and replacing text

Occurrences of a fixed text, cutting at a separator, and the two walks that every recogniser of
this library is run with: `Chars.findAll` lists the leftmost, non-overlapping matches, and
`Chars.substitute` replaces them.  A recogniser looks at the front of a character list and says how
many characters it takes and what it found there; both walks are structural in the text, with the
number of characters that are still covered by the last match as a counter.
-/

namespace CrossAudit
namespace Chars

/-! ## Fixed texts -/

/-- Whether a text occurs in another one. -/
def occursIn (needle : List Char) : List Char → Bool
  | [] => needle.isEmpty
  | c :: rest => needle.isPrefixOf (c :: rest) || occursIn needle rest

/-- What follows a given opening, if the text starts with it. -/
def after? (opening cs : List Char) : Option (List Char) :=
  if opening.isPrefixOf cs then some (cs.drop opening.length) else none

/-- What precedes a given ending, if the text stops with it. -/
def before? (ending cs : List Char) : Option (List Char) :=
  if ending.isSuffixOf cs then some (cs.take (cs.length - ending.length)) else none

/-- The text up to the first separator and the text after it; no second part without one. -/
def cut (sep : Char) (cs : List Char) : List Char × Option (List Char) :=
  (cs.takeWhile (· != sep), (cs.dropWhile (· != sep)).tail?)

/-- The last piece of a text that is cut at every separator. -/
def lastPiece (sep : Char) (cs : List Char) : List Char :=
  (cs.reverse.takeWhile (· != sep)).reverse

/-- Whether a class of texts holds the text itself, or the text without one final line feed. -/
def holdsToEnd (p : List Char → Bool) (cs : List Char) : Bool :=
  p cs || (cs.getLast? == some '\n' && p cs.dropLast)

/-- All final segments of a text, the longest first. -/
def suffixes : List Char → List (List Char)
  | [] => [[]]
  | c :: rest => (c :: rest) :: suffixes rest

/-! ## Matches -/

/-- One match: where it starts, how many characters it takes, and what was found. -/
structure Match (α : Type) where
  start : Nat
  length : Nat
  value : α

/-- The walk behind `findAll`: `skip` characters are still covered by the last match. -/
def findAllFrom {α : Type} (recognise : List Char → Option (Nat × α)) :
    Nat → Nat → List Char → List (Match α)
  | _, _, [] => []
  | pos, skip + 1, _ :: rest => findAllFrom recognise (pos + 1) skip rest
  | pos, 0, c :: rest =>
    match recognise (c :: rest) with
    | some (taken, value) =>
      ⟨pos, taken, value⟩ :: findAllFrom recognise (pos + 1) (taken - 1) rest
    | none => findAllFrom recognise (pos + 1) 0 rest

/-- The leftmost, non-overlapping matches of a recogniser, in order. -/
def findAll {α : Type} (recognise : List Char → Option (Nat × α)) (cs : List Char) :
    List (Match α) :=
  findAllFrom recognise 0 0 cs

/-- The walk behind `substitute`: `skip` characters are still covered by the last match. -/
def substituteFrom (recognise : List Char → Option (Nat × List Char)) :
    Nat → List Char → List Char
  | _, [] => []
  | skip + 1, _ :: rest => substituteFrom recognise skip rest
  | 0, c :: rest =>
    match recognise (c :: rest) with
    | some (taken, value) => value ++ substituteFrom recognise (taken - 1) rest
    | none => c :: substituteFrom recognise 0 rest

/-- Replaces the leftmost, non-overlapping matches of a recogniser. -/
def substitute (recognise : List Char → Option (Nat × List Char)) (cs : List Char) : List Char :=
  substituteFrom recognise 0 cs

/-- Replaces every occurrence of a non-empty text. -/
def replaceAll (old new cs : List Char) : List Char :=
  substitute (fun rest => if old.isPrefixOf rest then some (old.length, new) else none) cs

/-! ## Pieces -/

/-- The walk behind `splitText`: `skip` characters still belong to the last separator, and `piece`
holds the characters since then, the last one first. -/
def splitTextFrom (sep : List Char) : Nat → List Char → List Char → List (List Char)
  | _, piece, [] => [piece.reverse]
  | skip + 1, piece, _ :: rest => splitTextFrom sep skip piece rest
  | 0, piece, c :: rest =>
    if sep.isPrefixOf (c :: rest) then
      piece.reverse :: splitTextFrom sep (sep.length - 1) [] rest
    else splitTextFrom sep 0 (c :: piece) rest

/-- Cuts a text at every occurrence of a non-empty separator; the pieces may be empty. -/
def splitText (sep cs : List Char) : List (List Char) :=
  splitTextFrom sep 0 [] cs

/-- How often a non-empty text occurs in another one, without overlaps. -/
def occurrences (needle cs : List Char) : Nat :=
  (splitText needle cs).length - 1

/-- Joins pieces with a separator. -/
def joinText (sep : List Char) (pieces : List (List Char)) : List Char :=
  sep.intercalate pieces

/-- Cuts a text at a separator, but not more often than a given number of times. -/
def splitTextUpTo (count : Nat) (sep cs : List Char) : List (List Char) :=
  let pieces := splitText sep cs
  if pieces.length ≤ count + 1 then pieces
  else pieces.take count ++ [joinText sep (pieces.drop count)]

/-- A text without as many characters at both ends. -/
def inner (margin : Nat) (cs : List Char) : List Char :=
  (cs.drop margin).take (cs.length - 2 * margin)

/-- Whether an odd number of backslashes stands at the end of a text whose characters are given
backwards. -/
def oddBackslashes (backwards : List Char) : Bool :=
  (backwards.takeWhile (· == '\\')).length % 2 == 1

/-- Whether a text ends with an odd number of backslashes, so that the last one escapes what
follows. -/
def endsEscaping (cs : List Char) : Bool :=
  oddBackslashes cs.reverse

end Chars

namespace Text

/-- Whether a character is a quote. -/
def isQuote (c : Char) : Bool :=
  c == '"' || c == '\''

/-- Cuts a text at every separator; the pieces may be empty. -/
def splitOn (sep : Char) (s : String) : List String :=
  (s.toList.splitOn sep).map String.ofList

/-- The last piece of a text that is cut at every separator. -/
def lastPiece (sep : Char) (s : String) : String :=
  String.ofList (Chars.lastPiece sep s.toList)

/-- The text before the first separator, or all of it. -/
def firstPiece (sep : Char) (s : String) : String :=
  String.ofList (Chars.cut sep s.toList).1

/-- The text before the first separator and the text after it; no second part without one. -/
def splitFirst (sep : Char) (s : String) : String × Option String :=
  let (head, rest) := Chars.cut sep s.toList
  (String.ofList head, rest.map String.ofList)

/-- Whether a text starts with another one. -/
def startsWith (s opening : String) : Bool :=
  opening.toList.isPrefixOf s.toList

/-- Whether a text ends with another one. -/
def endsWith (s ending : String) : Bool :=
  ending.toList.isSuffixOf s.toList

/-- Whether a text contains another one. -/
def contains (s needle : String) : Bool :=
  Chars.occursIn needle.toList s.toList

/-- Replaces every occurrence of a non-empty text. -/
def replaceAll (s old new : String) : String :=
  String.ofList (Chars.replaceAll old.toList new.toList s.toList)

/-- Joins texts with a separator. -/
def join (sep : String) (parts : List String) : String :=
  String.intercalate sep parts

end Text
end CrossAudit
