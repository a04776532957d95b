/-!
# Unique names for entities

An `IdPool` remembers the names it has handed out.  A name that is still free is handed out as it
is; otherwise the least number from two that makes it free is appended.
-/

namespace CrossAudit

/-- The names already handed out. -/
structure IdPool where
  used : List String := []
  deriving Repr, DecidableEq, Inhabited

namespace IdPool

/-- A base name with a number. -/
def numbered (base : String) (k : Nat) : String :=
  base ++ "#" ++ toString k

/-- The first free numbered name, from `k` on.  One more attempt than there are names in use
always suffices. -/
def firstFree (used : List String) (base : String) : Nat → Nat → String
  | 0, k => numbered base k
  | fuel + 1, k =>
    if used.contains (numbered base k) then firstFree used base fuel (k + 1) else numbered base k

/-- The name that a base would get. -/
def next (pool : IdPool) (base : String) : String :=
  if pool.used.contains base then firstFree pool.used base pool.used.length 2 else base

/-- Hands out a name for a base. -/
def claim (pool : IdPool) (base : String) : String × IdPool :=
  let id := pool.next base
  (id, ⟨id :: pool.used⟩)

/-- The base name of an entity: where and what it is. -/
def baseName (language kind file name : String) (line col : Int) : String :=
  s!"{language}:{kind}:{file}:{name}:{line}:{col}"

/-- Hands out a name for an entity. -/
def allocate (pool : IdPool) (language kind file name : String) (line col : Int) :
    String × IdPool :=
  pool.claim (baseName language kind file name line col)

end IdPool
end CrossAudit
