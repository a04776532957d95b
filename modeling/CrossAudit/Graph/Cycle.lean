import CrossAudit.Graph.Basic
import CrossAudit.Total

/-!
# Cycles

A depth-first search over the nodes.  A target on the current path closes a cycle: the part of the
path from that target on.  Every node is entered once, so the search ends: a step either enters a
fresh node or shortens what is still to be looked at.  Of cycles that are rotations of one another
the first is kept.
-/

namespace CrossAudit
namespace Graph

/-! ## Rotations -/

/-- The smallest text of a list that starts with the given one. -/
def leastFrom (first : String) (rest : List String) : String :=
  rest.foldl (fun best n => if n < best then n else best) first

/-- The rotation that starts with the smallest node. -/
def canonicalRotation (nodes : List String) : List String :=
  match nodes with
  | [] => []
  | first :: rest =>
    let least := leastFrom first rest
    nodes.dropWhile (· != least) ++ nodes.takeWhile (· != least)

/-- Adds a cycle, unless one of its rotations is there.  Rotations have the same length, so cycles
of other lengths are passed over at once. -/
def addCycle (found : List (List String)) (nodes : List String) : List (List String) :=
  let turned := canonicalRotation nodes
  let length := nodes.length
  if found.any fun c => c.length == length && canonicalRotation c == turned then found
  else found ++ [nodes]

/-! ## The search -/

/-- A node on the current path with the targets that are still to be looked at. -/
abbrev Frame := String × List String

/-- The nodes of the current path, innermost node first. -/
def pathOf (frames : List Frame) : List String :=
  frames.map (·.1)

@[simp]
theorem pathOf_nil : pathOf [] = [] :=
  rfl

@[simp]
theorem pathOf_cons (f : Frame) (below : List Frame) : pathOf (f :: below) = f.1 :: pathOf below :=
  rfl

/-- The part of the current path from a node on; the path is given innermost node first. -/
def closedBy (node : String) (path : List String) : List String :=
  node :: (path.takeWhile (· != node)).reverse

/-- The work that frames still hold. -/
def pending (frames : List Frame) : Nat :=
  total (frames.map fun f => f.2.length + 1)

/-- The nodes of a list other than a given one. -/
def without (node : String) (fresh : List String) : List String :=
  fresh.filter (· != node)

/-- Removing a fresh node leaves fewer of them. -/
theorem length_without_lt {node : String} {fresh : List String}
    (h : fresh.contains node = true) : (without node fresh).length < fresh.length := by
  rw [without, List.length_filter_lt_length_iff_exists]
  exact ⟨node, by simpa using h, by simp⟩

/-- Runs a search to its end: the nodes that are still fresh, and the cycles found. -/
def searchCycles (adj : Adjacency) (fresh : List String) (frames : List Frame)
    (found : List (List String)) : List String × List (List String) :=
  match frames with
  | [] => (fresh, found)
  | (_, []) :: below => searchCycles adj fresh below found
  | (node, next :: rest) :: below =>
    if (node :: pathOf below).contains next then
      searchCycles adj fresh ((node, rest) :: below)
        (addCycle found (closedBy next (node :: pathOf below)))
    else if _h : fresh.contains next = true then
      searchCycles adj (without next fresh)
        ((next, adj.targets next) :: (node, rest) :: below) found
    else searchCycles adj fresh ((node, rest) :: below) found
termination_by (fresh.length, pending frames)
decreasing_by
  · simp only [pending, List.map_cons, total]
    exact Prod.Lex.right _ (by omega)
  · simp only [pending, List.map_cons, total, List.length_cons]
    exact Prod.Lex.right _ (by omega)
  · exact Prod.Lex.left _ _ (length_without_lt _h)
  · simp only [pending, List.map_cons, total, List.length_cons]
    exact Prod.Lex.right _ (by omega)

/-- Searches from a node, if it is fresh. -/
def searchFrom (adj : Adjacency) (state : List String × List (List String)) (start : String) :
    List String × List (List String) :=
  if state.1.contains start then
    searchCycles adj (without start state.1) [(start, adj.targets start)] state.2
  else state

/-- The cycles that the search meets from a list of nodes. -/
def cyclesFrom (order : List String) (adj : Adjacency) : List (List String) :=
  (order.foldl (searchFrom adj) (Adjacency.mentioned order adj, [])).2

/-- How grave a cycle is: short ones are critical. -/
def cycleSeverity (critical : Int) (nodes : List String) : String :=
  if (nodes.length : Int) ≤ critical then "critical" else "warning"

/-- The cycles of a graph. -/
def detectCycles (critical : Int) (order : List String) (adj : Adjacency) : List Cycle :=
  (cyclesFrom order adj).map fun nodes => ⟨nodes, cycleSeverity critical nodes⟩

end Graph
end CrossAudit
