import CrossAudit.Text.Search

/-!
# Matching a request path against a route template

Both are cut into segments after the query and the fragment are dropped.  A segment of the
template that is a parameter takes any segment that is not empty; any other segment takes itself.
-/

namespace CrossAudit
namespace Route

/-- The segments of a path, without its query and fragment. -/
def segments (path : String) : List String :=
  ((Chars.cut '#' (Chars.cut '?' path.toList).1).1.splitOn '/').map String.ofList

/-- Whether a template's segment is a parameter: `:id`, or a name in braces. -/
def isParameter (segment : String) : Bool :=
  match segment.toList with
  | ':' :: _ => true
  | '\x7b' :: rest => rest.getLast? == some '\x7d'
  | _ => false

/-- Whether a template's segment takes a path's segment. -/
def takes (want got : String) : Bool :=
  if isParameter want then got != "" else want == got

/-- Whether a template matches a request path, segment by segment. -/
def isMatch (template url : String) : Bool :=
  let expected := segments template
  let actual := segments url
  expected.length == actual.length && (expected.zip actual).all fun p => takes p.1 p.2

end Route
end CrossAudit
