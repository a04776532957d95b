import CrossAudit.Proofs.Graph.CycleSearch
import Mathlib.Data.List.Rotate

/-!
# The cycles that are found are real

A cycle is cut out of the path of the search when one of its targets is met again, so it is a closed
walk through nodes that were entered, each of them once.  All cycles are sublists of the list of
nodes in the order in which they were entered; there a rotation of a cycle is that cycle itself, and
no cycle is recorded a second time.

Main results:

- Theorem `nodup_cyclesFrom`: no cycle is recorded twice.
- Theorem `pairwise_not_isRotated_cyclesFrom`: no two recorded cycles are rotations of one another.
- Theorem `detectCycles_genuine`: every cycle that is reported is one, with the severity of its
  length, and is reported once.
-/

namespace CrossAudit
namespace Graph

/-! ## Each cycle once -/

/-- A cycle that was found before is not added. -/
theorem addCycle_of_mem {found : List (List String)} {nodes : List String} (h : nodes ∈ found) :
    addCycle found nodes = found := by
  simp only [addCycle]
  rw [if_pos]
  rw [List.any_eq_true]
  exact ⟨nodes, h, by simp⟩

theorem nodup_addCycle {found : List (List String)} (h : found.Nodup) (nodes : List String) :
    (addCycle found nodes).Nodup := by
  by_cases hmem : nodes ∈ found
  · rwa [addCycle_of_mem hmem]
  · simp only [addCycle]
    split
    · exact h
    · refine List.nodup_append.2 ⟨h, List.nodup_singleton nodes, ?_⟩
      rintro c hc _ hlast rfl
      rw [List.mem_singleton] at hlast
      exact hmem (hlast ▸ hc)

/-- A search to its end records no cycle twice. -/
theorem nodup_searchCycles (adj : Adjacency) (fresh : List String) (frames : List Frame)
    {found : List (List String)} (h : found.Nodup) :
    (searchCycles adj fresh frames found).2.Nodup := by
  fun_induction searchCycles adj fresh frames found with
  | case1 fresh found => exact h
  | case2 fresh found u below ih => exact ih h
  | case3 fresh found u next rest below hpath ih => exact ih (nodup_addCycle h _)
  | case4 fresh found u next rest below hpath hfresh ih => exact ih h
  | case5 fresh found u next rest below hpath hfresh ih => exact ih h

/-- The searches from all start nodes record no cycle twice. -/
theorem nodup_cyclesFrom (order : List String) (adj : Adjacency) :
    (cyclesFrom order adj).Nodup := by
  have hrun : ∀ (starts : List String) (state : List String × List (List String)),
      state.2.Nodup → (starts.foldl (searchFrom adj) state).2.Nodup := by
    intro starts
    induction starts with
    | nil => exact fun _ h => h
    | cons start starts ih =>
        intro state h
        refine ih _ ?_
        unfold searchFrom
        split
        · exact nodup_searchCycles adj _ _ h
        · exact h
  exact hrun order _ List.nodup_nil

/-! ## Cycles as sublists of what was entered -/

/-- What is known of the recorded cycles at the end: they are closed walks, and sublists of a list
of accessible nodes without repetitions. -/
theorem exists_entered_cyclesFrom (order : List String) (adj : Adjacency) :
    ∃ entered : List String, entered.Nodup ∧ (∀ v ∈ entered, adj.Accessible order v) ∧
      ∀ c ∈ cyclesFrom order adj, c.Sublist entered ∧ ClosedWalk adj c := by
  rcases exists_search_cyclesFrom order adj with ⟨entered, left, fresh, hrun, _⟩
  exact ⟨entered, hrun.nodup, hrun.accessible,
    fun c hc => ⟨hrun.found_sublist c hc, hrun.found_walk c hc⟩⟩

/-- No two recorded cycles are rotations of one another. -/
theorem pairwise_not_isRotated_cyclesFrom (order : List String) (adj : Adjacency) :
    (cyclesFrom order adj).Pairwise fun c d => ¬ c.IsRotated d := by
  rcases exists_entered_cyclesFrom order adj with ⟨entered, hnodup, _, hcycles⟩
  refine (nodup_cyclesFrom order adj).imp_of_mem ?_
  intro c d hc hd hne hrotated
  -- Rotations have the same nodes, and the order of entry leaves one way to list them.
  exact hne ((hnodup.perm_iff_eq_of_sublist (hcycles c hc).1 (hcycles d hd).1).1 hrotated.perm)

/-! ## Reported cycles -/

/-- A reported cycle that is one: distinct nodes that the start nodes lead to, each with an edge to
the next and the last with an edge to the first; it is critical exactly if it is short. -/
structure Cycle.Genuine (adj : Adjacency) (order : List String) (critical : Int) (c : Cycle) :
    Prop where
  walk : ClosedWalk adj c.nodes
  distinct : c.nodes.Nodup
  accessible : ∀ v ∈ c.nodes, adj.Accessible order v
  severity : c.severity = "critical" ↔ (c.nodes.length : Int) ≤ critical

theorem cycleSeverity_eq_critical_iff (critical : Int) (nodes : List String) :
    cycleSeverity critical nodes = "critical" ↔ (nodes.length : Int) ≤ critical := by
  unfold cycleSeverity
  by_cases h : (nodes.length : Int) ≤ critical <;> simp [h]

/-- Every cycle that is reported is one, and no two of them are rotations of one another. -/
theorem detectCycles_genuine (critical : Int) (order : List String) (adj : Adjacency) :
    (∀ c ∈ detectCycles critical order adj, c.Genuine adj order critical) ∧
    (detectCycles critical order adj).Pairwise fun c d => ¬ c.nodes.IsRotated d.nodes := by
  constructor
  · rcases exists_entered_cyclesFrom order adj with ⟨entered, hnodup, haccessible, hcycles⟩
    intro c hc
    rcases List.mem_map.1 hc with ⟨nodes, hnodes, rfl⟩
    rcases hcycles nodes hnodes with ⟨hsub, hwalk⟩
    exact
      { walk := hwalk
        distinct := hnodup.sublist hsub
        accessible := fun v hv => haccessible v (hsub.subset hv)
        severity := cycleSeverity_eq_critical_iff critical nodes }
  · rw [detectCycles, List.pairwise_map]
    exact pairwise_not_isRotated_cyclesFrom order adj

/-- Three cycles that share nodes; the shortest is met twice. -/
def tangle : Adjacency :=
  [("a", ["b", "a", "a"]), ("b", ["c"]), ("c", ["a", "d", "b"])]

/-- Each of them is reported once, and the longest is not critical. -/
theorem detectCycles_genuine_tangle :
    detectCycles 2 ["a"] tangle =
      [⟨["a", "b", "c"], "warning"⟩, ⟨["b", "c"], "critical"⟩, ⟨["a"], "critical"⟩] ∧
    Cycle.Genuine tangle ["a"] 2 ⟨["b", "c"], "critical"⟩ := by
  have hfound : detectCycles 2 ["a"] tangle =
      [⟨["a", "b", "c"], "warning"⟩, ⟨["b", "c"], "critical"⟩, ⟨["a"], "critical"⟩] := by
    simp +decide [detectCycles, cyclesFrom, Adjacency.mentioned, tangle, searchFrom, searchCycles,
      Adjacency.targets, List.lookup_cons, without, closedBy, addCycle, cycleSeverity]
  exact ⟨hfound, (detectCycles_genuine 2 ["a"] tangle).1 _ (by simp [hfound])⟩

end Graph
end CrossAudit
