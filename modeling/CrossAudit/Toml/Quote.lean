import CrossAudit.Json.Parser
import CrossAudit.Text.Search
import CrossAudit.Toml.Value

/-!
# Texts between quotes

Texts stand between double quotes, where a backslash starts an escape, or between single quotes,
where it does not.  Three quotes instead of one enclose a long text.
-/

namespace CrossAudit
namespace Toml

/-- A failure of a text that is malformed. -/
def malformed {α : Type} : Except Failure α := .error .malformed

/-- A position outside a text or an array. -/
def outOfRange {α : Type} (shape : String) : Except Failure α :=
  .error (.fault (.outOfRange shape))

/-! ## Escapes -/

/-- The character that a short escape stands for. -/
def shortEscape? (c : Char) : Option Char :=
  match c with
  | '0' => some (Char.ofNat 0)
  | 'b' => some (Char.ofNat 8)
  | 'f' => some (Char.ofNat 12)
  | 'n' => some '\n'
  | 'r' => some '\r'
  | 't' => some '\t'
  | '"' => some '"'
  | _ => none

/-- Checks the pieces that follow the backslashes of a text: each starts with a known escape,
unless the backslash before it is itself escaped. -/
def checkEscapes (escaped : Bool) : List (List Char) → Except Failure Unit
  | [] => .ok ()
  | [] :: pieces => checkEscapes (!escaped) pieces
  | (c :: _) :: pieces =>
    if (shortEscape? c).isNone && c != 'u' && c != 'U' && !escaped then malformed
    else checkEscapes false pieces

/-- Replaces short escapes and doubled backslashes; the marks of code points stay. -/
def unescape : List Char → Except Failure (List Char)
  | [] => .ok []
  | '\\' :: c :: rest => do
    let tail ← unescape rest
    match shortEscape? c with
    | some e => return e :: tail
    | none =>
      if c == '\\' then return '\\' :: tail
      else if c == 'u' || c == 'U' then return '\\' :: c :: tail
      else malformed
  | c :: rest => do return c :: (← unescape rest)

/-- The greatest number that may be asked for as a code point. -/
def greatestCode : Nat := 2147483647

/-- The value of hexadecimal digits. -/
def hexNat? (ds : List Char) : Option Nat :=
  ds.foldlM (fun n c => (Json.hexValue? c).map (16 * n + ·)) 0

/-- The character of a code point. -/
def charOf (n : Nat) : Except Failure Char :=
  if greatestCode < n then .error (.fault .tooLargeCode)
  else if n < 0xd800 || (0xdfff < n && n < 0x110000) then .ok (Char.ofNat n)
  else malformed

/-- The character whose digits a text starts with, and the text after them. -/
def decodeCode (width : Nat) (cs : List Char) : Except Failure (List Char) :=
  let ds := cs.take width
  match hexNat? ds with
  | none => malformed
  | some n =>
    match ds.map Char.toLower with
    | [] => outOfRange "string"
    | ['d'] => outOfRange "string"
    | 'd' :: e :: _ =>
      if '0' ≤ e && e ≤ '7' then do return (← charOf n) :: cs.drop width else malformed
    | _ => do return (← charOf n) :: cs.drop width

/-- The pieces that follow the marks of code points: the first digits of each are replaced, unless
the backslash of its mark is escaped. -/
def decodePieces (mark : List Char) (width : Nat) (escaped : Bool) :
    List (List Char) → Except Failure (List Char)
  | [] => .ok []
  | piece :: pieces => do
    if escaped then
      return mark ++ piece ++ (← decodePieces mark width (Chars.endsEscaping piece) pieces)
    else
      let here ← decodeCode width piece
      return here ++ (← decodePieces mark width false pieces)

/-- Replaces the code points that a mark introduces. -/
def decodeCodes (mark : List Char) (width : Nat) (cs : List Char) :
    Except Failure (List Char) :=
  match Chars.splitText mark cs with
  | first :: pieces => do
    return first ++ (← decodePieces mark width (Chars.endsEscaping first) pieces)
  | [] => .ok cs

/-- A text in which escapes are replaced. -/
def resolveEscapes (cs : List Char) : Except Failure (List Char) := do
  checkEscapes false (cs.splitOn '\\').tail
  unescape (← decodeCodes ['\\', 'U'] 8 (← decodeCodes ['\\', 'u'] 4 cs))

/-! ## Ends -/

/-- Checks the pieces between the quotes of a text: nothing follows its end.  The end of a long
text is told by two empty pieces; `count` is the number of them so far. -/
def checkEnd (long closed : Bool) (count : Nat) : List (List Char) → Except Failure Unit
  | [] => .ok ()
  | [] :: pieces =>
    if long then checkEnd long closed (count + 1) pieces else checkEnd long true count pieces
  | piece :: pieces =>
    if Chars.endsEscaping piece then checkEnd long closed count pieces
    else if closed then malformed
    else if !long || 1 < count then checkEnd long true count pieces
    else checkEnd long closed 0 pieces

/-- Checks that nothing follows the end of a text, given what stands after its first quote. -/
def checkQuotes (quote : Char) (cs : List Char) : Except Failure Unit :=
  match cs.splitOn quote with
  | [] :: [] :: pieces => checkEnd true false 0 pieces
  | pieces => checkEnd false false 0 pieces

/-- What stands between the quotes of a text, which are three on each side in a long text. -/
def unquote (quote : Char) (cs : List Char) : List Char :=
  match cs with
  | _ :: q :: rest =>
    if q == quote && rest.head?.all (· == q) then Chars.inner 1 (Chars.inner 2 cs)
    else Chars.inner 1 cs
  | _ => []

/-- The text that a quoted text stands for. -/
def readText (quote : Char) (cs : List Char) : Except Failure String := do
  checkQuotes quote cs.tail
  let cs ← if quote == '"' then resolveEscapes cs else .ok cs
  return String.ofList (unquote quote cs)

/-- The pieces of a line that starts with single quotes, given the pieces between these and those
between the double quotes that follow.  An open text between single quotes takes double quotes in;
after it, only the piece before the next double quote is cut at single quotes. -/
def closeSingles (singles : List (List Char)) : List (List Char) → List (List Char)
  | [] => singles
  | d :: doubles =>
    if singles.length % 2 == 0 then
      let last := singles.getLast?.getD [] ++ '"' :: d
      closeSingles (singles.dropLast ++ last.splitOn '\'') doubles
    else singles ++ d.splitOn '\'' ++ doubles

/-- Cuts a line at its quotes, so that every second piece stands between quotes. -/
def quotePieces (line : List Char) : List (List Char) :=
  match line.splitOn '"' with
  | [] => []
  | first :: rest =>
    if !rest.isEmpty && first.contains '\'' then closeSingles (first.splitOn '\'') rest
    else first.splitOn '\'' ++ rest

/-- How many occurrences of a separator stand before the first one that is not quoted. -/
def quotedBefore (sep : List Char) (quoted : Bool) : List (List Char) → Nat
  | [] => 0
  | piece :: pieces =>
    if !quoted && Chars.occursIn sep piece then 0
    else Chars.occurrences sep piece + quotedBefore sep (!quoted) pieces

end Toml
end CrossAudit
