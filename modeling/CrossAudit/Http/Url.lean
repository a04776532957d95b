import CrossAudit.Text.Blank
import CrossAudit.Text.Search

/-!
# String literals, route templates and request URLs

A route template and a request URL are brought to one form before they are compared.  In a
template every angle-bracket parameter becomes a brace parameter; in a URL every interpolation
becomes the placeholder `:param`, and the scheme, the host and a leading placeholder, which stand
for a server that is not known, are dropped.
-/

namespace CrossAudit
namespace Http

/-! ## Literals -/

/-- Letters that may stand before the quote of a string literal. -/
def isLiteralMark (c : Char) : Bool :=
  "rRbBuUfF".toList.contains c

/-- The delimiters of a string literal, tripled ones first. -/
def delimiters : List (List Char) :=
  ["\"\"\"".toList, "'''".toList, ['"'], ['\''], ['\x60']]

/-- What stands between a delimiter at the front and the same delimiter at the end. -/
def between? (delimiter cs : List Char) : Option (List Char) :=
  (Chars.after? delimiter cs).bind (Chars.before? delimiter)

/-- The inside of a string literal, given its source text: up to two marks, a delimiter, and the
same delimiter at the end. -/
def literal? (text : String) : Option String :=
  let cs := Chars.strip text.toList
  let marks := cs.takeWhile isLiteralMark
  if 2 < marks.length then none
  else (delimiters.findSome? fun d => between? d (cs.drop marks.length)).map String.ofList

/-! ## Routes -/

/-- The name of a parameter without its converter; a converter or a name may not be empty. -/
def parameterName (inside : List Char) : List Char :=
  match Chars.cut ':' inside with
  | (converter, some name) => if converter.isEmpty || name.isEmpty then inside else name
  | (_, none) => inside

/-- Recognises an angle-bracket parameter and writes it with braces. -/
def angleParameter (cs : List Char) : Option (Nat × List Char) :=
  match cs with
  | '<' :: rest =>
    let inside := rest.takeWhile fun c => c != '<' && c != '>'
    if !inside.isEmpty && (rest.drop inside.length).head? == some '>' then
      some (inside.length + 2, '\x7b' :: (parameterName inside ++ ['\x7d']))
    else none
  | _ => none

/-- A route template in its common form: `<int:id>` becomes a brace parameter `id`. -/
def normalizeRoute (path : String) : String :=
  String.ofList (Chars.substitute angleParameter path.toList)

/-! ## Request URLs -/

/-- How a source language writes an interpolation: `$` and braces, or braces alone. -/
inductive Interpolation where
  | dollar
  | braces
  deriving Repr, DecidableEq

/-- Stands for a part of a URL that is only known when it is requested. -/
def placeholder : List Char :=
  ":param".toList

/-- Recognises an interpolation. -/
def interpolation (style : Interpolation) (cs : List Char) : Option (Nat × List Char) :=
  match style, cs with
  | .dollar, '$' :: '\x7b' :: rest =>
    let inside := rest.takeWhile (· != '\x7d')
    if (rest.drop inside.length).isEmpty then none else some (inside.length + 3, placeholder)
  | .braces, '\x7b' :: rest =>
    let inside := rest.takeWhile fun c => c != '\x7b' && c != '\x7d'
    if (rest.drop inside.length).head? == some '\x7d' then some (inside.length + 2, placeholder)
    else none
  | _, _ => none

/-- Characters of a scheme after its first letter. -/
def isSchemeChar (c : Char) : Bool :=
  c.isAlphanum || c == '+' || c == '.' || c == '-'

/-- Drops a scheme and a host; both must be there. -/
def dropHost (cs : List Char) : List Char :=
  match cs with
  | [] => []
  | c :: rest =>
    if c.isAlpha then
      match Chars.after? "://".toList (rest.dropWhile isSchemeChar) with
      | some tail => if (tail.takeWhile (· != '/')).isEmpty then cs else tail.dropWhile (· != '/')
      | none => cs
    else cs

/-- Drops placeholders in front. -/
def dropPlaceholders : List Char → List Char
  | ':' :: 'p' :: 'a' :: 'r' :: 'a' :: 'm' :: rest => dropPlaceholders rest
  | cs => cs

/-- A path starts with a slash. -/
def rooted (cs : List Char) : List Char :=
  if cs.head? == some '/' then cs else '/' :: cs

/-- A request URL as a path with placeholders. -/
def normalizeUrl (style : Interpolation) (url : String) : String :=
  String.ofList (rooted (dropPlaceholders (dropHost
    (Chars.substitute (interpolation style) url.toList))))

/-- Whether a literal can be a URL: it starts with a slash or an interpolation, or names a
scheme. -/
def looksLikeUrl (text : String) : Bool :=
  let cs := text.toList
  cs.head? == some '/' || Chars.occursIn "://".toList cs || "$\x7b".toList.isPrefixOf cs ||
    cs.head? == some '\x7b'

end Http
end CrossAudit
