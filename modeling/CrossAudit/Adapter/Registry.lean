import CrossAudit.Adapter.Basic

/-!
# The registry of adapters

An ordered collection with at most one adapter per language.  A file belongs to the first adapter
that supports it.
-/

namespace CrossAudit

/-- The registered adapters, in order of registration. -/
structure Registry where
  adapters : List Adapter := []
  deriving Repr, DecidableEq, Inhabited

namespace Registry

/-- Why an adapter is refused. -/
inductive Refusal where
  | taken (language : String)
  deriving Repr, DecidableEq

/-- The wording of a refusal. -/
def Refusal.message : Refusal → String
  | .taken language => "An adapter for '" ++ language ++ "' is already registered"

/-- Adds an adapter.  One whose grammar is not available is passed over. -/
def register (r : Registry) (a : Adapter) (available : Bool) : Except Refusal Registry :=
  if !available then .ok r
  else if r.adapters.any fun b => b.language == a.language then .error (.taken a.language)
  else .ok ⟨r.adapters ++ [a]⟩

/-- Removes the adapter of a language. -/
def unregister (r : Registry) (language : String) : Registry :=
  ⟨r.adapters.filter fun a => a.language != language⟩

/-- The adapter of a language. -/
def get? (r : Registry) (language : String) : Option Adapter :=
  r.adapters.find? fun a => a.language == language

/-- Whether a language has an adapter. -/
def contains (r : Registry) (language : String) : Bool :=
  (r.get? language).isSome

/-- The adapter that a file belongs to. -/
def adapterFor? (r : Registry) (path : String) : Option Adapter :=
  r.adapters.find? fun a => a.supports path

/-- The languages of the registry. -/
def languages (r : Registry) : List String :=
  r.adapters.map Adapter.language

/-- Each extension with the language that wins it. -/
def extensions (r : Registry) : List (String × String) :=
  (r.adapters.flatMap fun a => a.extensions.map fun e => (e, a.language)).foldl
    (fun table entry => if (table.lookup entry.1).isSome then table else table ++ [entry]) []

/-- The registry with all adapters. -/
def standard : Registry :=
  ⟨Adapter.all⟩

end Registry
end CrossAudit
