import CrossAudit.Graph.Cycle

/-!
# Strongly connected components

A depth-first search that numbers the nodes as it enters them.  Each frame knows the smallest
number that its node reaches among the nodes whose component is still open; a node that reaches no
smaller number than its own closes a component.  Components come out sinks first.
-/

namespace CrossAudit
namespace Graph

/-- A node on the current path: its number, the smallest open number it is known to reach, and the
targets that are still to be looked at. -/
structure Visit where
  node : String
  index : Nat
  low : Nat
  rest : List String
  deriving Repr, DecidableEq, Inhabited

/-- The state of the search: the nodes not entered yet, the next number, the nodes whose component
is open with their numbers, the latest first, and the components that are closed. -/
structure Scan where
  fresh : List String
  count : Nat := 0
  opened : List (String × Nat) := []
  components : List (List String) := []
  deriving Repr, DecidableEq, Inhabited

namespace Scan

/-- Enters a node. -/
def enter (s : Scan) (node : String) : Scan :=
  { s with
    fresh := without node s.fresh
    count := s.count + 1
    opened := (node, s.count) :: s.opened }

/-- Closes the component of a node: the nodes opened since, and the node itself. -/
def close (s : Scan) (node : String) : Scan :=
  let names := s.opened.map (·.1)
  { s with
    opened := (s.opened.dropWhile (·.1 != node)).tail
    components := s.components ++ [names.takeWhile (· != node) ++ [node]] }

/-- Leaves a node, closing its component if it reaches no smaller number. -/
def leave (s : Scan) (v : Visit) : Scan :=
  if v.low == v.index then s.close v.node else s

end Scan

/-- The first visit of a node that is about to be entered. -/
def Visit.start (s : Scan) (adj : Adjacency) (node : String) : Visit :=
  ⟨node, s.count, s.count, adj.targets node⟩

/-- Lowers the reach of the innermost visit. -/
def lowerHead (low : Nat) (visits : List Visit) : List Visit :=
  match visits with
  | [] => []
  | v :: below => { v with low := min v.low low } :: below

/-- The work that visits still hold. -/
def pendingVisits (visits : List Visit) : Nat :=
  total (visits.map fun v => v.rest.length + 1)

/-- Lowering a reach leaves the work as it is. -/
theorem pendingVisits_lowerHead (low : Nat) (visits : List Visit) :
    pendingVisits (lowerHead low visits) = pendingVisits visits := by
  cases visits <;> rfl

/-- Leaving a node enters none. -/
theorem fresh_leave (s : Scan) (v : Visit) : (s.leave v).fresh = s.fresh := by
  unfold Scan.leave Scan.close
  split <;> rfl

/-- Runs a search to its end. -/
def scanComponents (adj : Adjacency) (s : Scan) (visits : List Visit) : Scan :=
  match visits with
  | [] => s
  | ⟨node, index, low, []⟩ :: below =>
    scanComponents adj (s.leave ⟨node, index, low, []⟩) (lowerHead low below)
  | ⟨node, index, low, next :: rest⟩ :: below =>
    if _h : s.fresh.contains next = true then
      scanComponents adj (s.enter next)
        (Visit.start s adj next :: ⟨node, index, low, rest⟩ :: below)
    else
      match s.opened.lookup next with
      | some number => scanComponents adj s (⟨node, index, min low number, rest⟩ :: below)
      | none => scanComponents adj s (⟨node, index, low, rest⟩ :: below)
termination_by (s.fresh.length, pendingVisits visits)
decreasing_by
  · rw [fresh_leave, pendingVisits_lowerHead]
    simp only [pendingVisits, List.map_cons, total]
    exact Prod.Lex.right _ (by omega)
  · exact Prod.Lex.left _ _ (length_without_lt _h)
  · simp only [pendingVisits, List.map_cons, total, List.length_cons]
    exact Prod.Lex.right _ (by omega)
  · simp only [pendingVisits, List.map_cons, total, List.length_cons]
    exact Prod.Lex.right _ (by omega)

/-- Searches from a node, if it is fresh. -/
def scanFrom (adj : Adjacency) (s : Scan) (start : String) : Scan :=
  if s.fresh.contains start then
    scanComponents adj (s.enter start) [Visit.start s adj start]
  else s

/-- The strongly connected components of what a list of nodes leads to, sinks first. -/
def components (order : List String) (adj : Adjacency) : List (List String) :=
  (order.foldl (scanFrom adj) { fresh := Adjacency.mentioned order adj }).components

end Graph
end CrossAudit
