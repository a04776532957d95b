/-!
# Association lists

Tables that keep their keys in the order in which they were first set.
-/

namespace CrossAudit
namespace Assoc

variable {α β : Type} [BEq α]

/-- Sets a key: its place is where it was set first, its value is the last one. -/
def set (key : α) (value : β) : List (α × β) → List (α × β)
  | [] => [(key, value)]
  | (k, v) :: rest => if k == key then (k, value) :: rest else (k, v) :: set key value rest

/-- Changes the value of a key, which counts as the given one if the key is new. -/
def update (key : α) (fallback : β) (f : β → β) : List (α × β) → List (α × β)
  | [] => [(key, f fallback)]
  | (k, v) :: rest =>
    if k == key then (k, f v) :: rest else (k, v) :: update key fallback f rest

/-- Adds an item to the list of a key. -/
def push (key : α) (item : β) (table : List (α × List β)) : List (α × List β) :=
  update key [] (· ++ [item]) table

/-- The items of a list in groups, by a key that each of them may have. -/
def group (key : β → Option α) (items : List β) : List (α × List β) :=
  items.foldl (fun table x => match key x with
    | some k => push k x table
    | none => table) []

/-- A table of pairs in which later pairs override earlier ones. -/
def ofPairs (ps : List (α × β)) : List (α × β) :=
  ps.foldl (fun table p => set p.1 p.2 table) []

end Assoc
end CrossAudit
