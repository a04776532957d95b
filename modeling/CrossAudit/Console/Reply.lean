import CrossAudit.Fault

/-!
# Replies

What a command shows: lines, messages with markup, documents, tables and panels.  How they are laid
out on a screen is left to whoever prints them.
-/

namespace CrossAudit
namespace Console

/-- Something to show. -/
inductive Output where
  | line (text : String)
  | markup (text : String)
  | document (value : Json)
  | table (title : String) (headers : List String) (rows : List (List String))
  | panel (title text border : String)
  deriving Inhabited

/-- What a command shows, its exit code, and why it broke off if it did. -/
structure Reply where
  output : List Output := []
  code : Nat := 0
  failure : Option Fault := none
  deriving Inhabited

namespace Reply

/-- The reply of a command that breaks off. -/
def broken (f : Fault) : Reply :=
  { code := 1, failure := some f }

/-- The reply to a wrong use of the command line. -/
def misused : Reply :=
  { code := 2 }

/-- Shows something in front of a reply. -/
def after (shown : List Output) (r : Reply) : Reply :=
  { r with output := shown ++ r.output }

/-- Shows something that may fail, and goes on if it does not. -/
def showing (shown : Except Fault (List Output)) (next : Reply) : Reply :=
  match shown with
  | .ok out => next.after out
  | .error f => broken f

end Reply
end Console
end CrossAudit
