/-!
# Sorting by a comparison that may fail

Items are sorted in a stable way by a test that says whether one comes before another, and that may
not be able to tell.  The run at the beginning that is already in order, or strictly in the
opposite one, is taken as it is; each further item is put into its place by bisection.  Sorting
fails with the first comparison that does.
-/

namespace CrossAudit
namespace Sorting

variable {α ε : Type} (before : α → α → Except ε Bool)

/-- The items that go on with a run after a given one, and the others.  In a falling run, each item
comes before the last one; in a rising run, none does. -/
def run (falling : Bool) (last : α) : List α → Except ε (List α × List α)
  | [] => .ok ([], [])
  | x :: rest => do
    if (← before x last) == falling then
      let (more, others) ← run falling x rest
      return (x :: more, others)
    else return ([], x :: rest)

/-- The position of an item among sorted ones, between two positions: after all that it does not
come before.  The fuel bounds their distance. -/
def position (sorted : List α) (x : α) : Nat → Nat → Nat → Except ε Nat
  | 0, low, _ => .ok low
  | fuel + 1, low, high =>
    let middle := low + (high - low) / 2
    match sorted[middle]? with
    | some y => do
      if high ≤ low then return low
      else if ← before x y then position sorted x fuel low middle
      else position sorted x fuel (middle + 1) high
    | none => .ok low

/-- Puts an item among sorted ones. -/
def insert (sorted : List α) (x : α) : Except ε (List α) := do
  let k ← position before sorted x (sorted.length + 1) 0 sorted.length
  return sorted.take k ++ x :: sorted.drop k

/-- Sorts items. -/
def sort : List α → Except ε (List α)
  | [] => .ok []
  | [x] => .ok [x]
  | x :: y :: rest => do
    let falling ← before y x
    let (more, others) ← run before falling y rest
    let start := x :: y :: more
    others.foldlM (insert before) (if falling then start.reverse else start)

end Sorting
end CrossAudit
