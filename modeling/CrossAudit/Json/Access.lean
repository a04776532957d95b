import CrossAudit.Json.Basic

/-!
# Typed access to members

Members of a document read at a type, with a default where the member is missing or null or of
another shape.
-/

namespace CrossAudit
namespace Json

/-- A text member. -/
def textAt? (j : Json) (key : String) : Option String :=
  (j.get? key).bind str?

/-- A text member with a default. -/
def textAt (j : Json) (key : String) (fallback : String) : String :=
  (j.textAt? key).getD fallback

/-- An integer member. -/
def intAt? (j : Json) (key : String) : Option Int :=
  match j.get? key with
  | some (.int n) => some n
  | _ => none

/-- An integer member with a default. -/
def intAt (j : Json) (key : String) (fallback : Int) : Int :=
  (j.intAt? key).getD fallback

/-- A number; an integer becomes the nearest binary one. -/
def number? : Json → Option Binary64
  | .int n => some (.ofInt n)
  | .real x => some x
  | _ => none

/-- A number member with a default. -/
def numberAt (j : Json) (key : String) (fallback : Binary64) : Binary64 :=
  ((j.get? key).bind number?).getD fallback

/-- A truth value member with a default. -/
def boolAt (j : Json) (key : String) (fallback : Bool) : Bool :=
  match j.get? key with
  | some (.bool b) => b
  | _ => fallback

/-- The items of an array member; none if it is missing. -/
def itemsAt (j : Json) (key : String) : List Json :=
  ((j.get? key).map items).getD []

/-- The texts of an array member. -/
def textsAt (j : Json) (key : String) : List String :=
  (j.itemsAt key).filterMap str?

/-- The texts of an array member that may be missing or null. -/
def textsAt? (j : Json) (key : String) : Option (List String) :=
  match j.get? key with
  | some (.arr xs) => some (xs.filterMap str?)
  | _ => none

/-- The members of an object member; none if it is missing. -/
def membersAt (j : Json) (key : String) : List (String × Json) :=
  ((j.get? key).map members).getD []

/-- A member that is an object. -/
def objectAt? (j : Json) (key : String) : Option Json :=
  match j.get? key with
  | some (.obj ms) => some (.obj ms)
  | _ => none

end Json
end CrossAudit
