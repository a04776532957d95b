import CrossAudit.Graph.Health
import CrossAudit.Proofs.Graph.Ball
import CrossAudit.Proofs.Graph.LongestWalk

/-!
# What a perfect score says

The score of a graph is lowered by the cycles that are reported, by counts of edges, and by a depth
that is computed.  All of these are told by the edges alone, and so is a score that nothing lowers.

Main results:

- Theorem `cycles_build_eq_nil_iff`: a graph reports no cycle exactly if it has none.
- Theorem `maxDepth_le_iff`: a graph is no deeper than a bound if no walk crosses more often.
- Theorem `score_bounds`: the score is in bounds, and perfect if nothing lowers it.
- Theorem `perfect_score_iff`: the score is perfect exactly if the graph is sound.
-/

namespace CrossAudit
namespace Graph

open Relation

/-! ## Cycles -/

/-- A graph that is built reports no cycle exactly if it has none. -/
theorem cycles_build_eq_nil_iff (o : Options) (entities : List Entity)
    (references : List Reference) :
    (build o entities references).cycles = [] ↔
      ¬ ∃ v, TransGen (build o entities references).Joins v v := by
  have hclosed := closed_build o entities references
  generalize hg : build o entities references = g at hclosed ⊢
  have hcycles : g.cycles = detectCycles o.criticalLength g.ids g.adjacency := by
    rw [← hg]
    rfl
  rw [hcycles, detectCycles, List.map_eq_nil_iff, cyclesFrom_eq_nil_iff, leads_adjacency]
  constructor
  · rintro hnone ⟨v, hcycle⟩
    -- A node on a cycle is the source of an edge.
    obtain ⟨w, ⟨e, he, hsource, _⟩, _⟩ := TransGen.head'_iff.1 hcycle
    exact hnone v (Adjacency.Accessible.of_mem (hsource ▸ (hclosed e he).1)) hcycle
  · intro hnone v _ hcycle
    exact hnone ⟨v, hcycle⟩

/-! ## Nodes with many edges, and with none -/

theorem outDegree_eq_length (g : Graph) (id : String) :
    outDegree g id = (g.edges.filter (·.source = id)).length := by
  simp only [outDegree, List.countP_eq_length_filter, beq_eq_decide]

/-- No node is a hub if none has more edges out than five, or than a tenth of the nodes. -/
theorem hubs_eq_nil_iff (g : Graph) :
    hubs g = [] ↔
      ∀ n ∈ g.nodes, (outDegree g n.id : ℚ) ≤ max 5 ((g.nodes.length : ℚ) / 10) := by
  rw [hubs, List.map_eq_nil_iff, List.filter_eq_nil_iff]
  refine forall₂_congr fun n _ => ?_
  have htenth : (outDegree g n.id : ℚ) ≤ g.nodes.length / 10 ↔
      10 * outDegree g n.id ≤ g.nodes.length := by
    rw [le_div_iff₀ (by norm_num), mul_comm]
    exact_mod_cast Iff.rfl
  have hfive : (outDegree g n.id : ℚ) ≤ 5 ↔ outDegree g n.id ≤ 5 := by exact_mod_cast Iff.rfl
  rw [le_max_iff, htenth, hfive]
  simp only [isHub, Bool.and_eq_true, decide_eq_true_eq]
  omega

/-- No node is an orphan if every node other than a module is an end of an edge. -/
theorem orphans_eq_nil_iff (g : Graph) :
    orphans g = [] ↔
      ∀ n ∈ g.nodes, n.type ≠ "module" → ∃ e ∈ g.edges, e.source = n.id ∨ e.target = n.id := by
  rw [orphans, List.map_eq_nil_iff, List.filter_eq_nil_iff]
  refine forall₂_congr fun n _ => ?_
  have hconnected : isConnected g n.id = true ↔
      ∃ e ∈ g.edges, e.source = n.id ∨ e.target = n.id := by
    simp [isConnected]
  rw [← hconnected]
  simp only [isOrphan, Bool.and_eq_true, Bool.not_eq_true', bne_iff_ne]
  cases isConnected g n.id <;> simp

/-! ## Depth -/

/-- A graph is no deeper than a bound if no walk crosses more often between its components. -/
theorem maxDepth_le_iff {g : Graph} (h : Made g) (bound : Nat) :
    g.metrics.maxDepth ≤ bound ↔ ∀ w, g.Walk w → g.crossings w ≤ bound := by
  rw [h.maxDepth_eq]
  by_cases hempty : g.nodes = []
  · -- Walks start at a node, so there are none.
    have hnone : ∀ w, ¬ g.Walk w := by
      rintro w ⟨⟨v, hv, _⟩, _⟩
      simp [ids, hempty] at hv
    have hzero : greatest g.nodeDepths = 0 := by simp [nodeDepths, ids, hempty, greatest]
    rw [hzero]
    exact iff_of_true (Nat.zero_le _) fun w hw => absurd hw (hnone w)
  · have hgreatest := isGreatest_greatest hempty
    constructor
    · exact fun hle w hw => (hgreatest.2 ⟨w, hw, rfl⟩).trans hle
    · intro hall
      obtain ⟨w, hw, hcount⟩ := hgreatest.1
      exact hcount ▸ hall w hw

/-! ## The score -/

theorem penalty_issue (type severity description : String) (count : Nat) (nodes : List String) :
    balance ((issue type severity description count nodes).map Issue.penalty) =
      if count = 0 then 0 else (⟨type, severity, description, nodes⟩ : Issue).penalty := by
  unfold issue
  split
  · rfl
  · simp [balance, Issue.penalty]

/-- What the issues of a graph take from its score. -/
theorem penalty_issues (g : Graph) :
    balance ((issues g).map Issue.penalty) =
      (if g.cycles = [] then 0 else 20 : Int) + (if hubs g = [] then 0 else 10) +
        (if orphans g = [] then 0 else 5) := by
  simp only [issues, List.map_append, balance_append, penalty_issue, List.length_eq_zero_iff]
  rfl

/-- What is taken off unless something holds is never negative, and nothing only if it holds. -/
theorem cost_cases (p : Prop) [Decidable p] {k : Int} (hk : 0 < k) :
    0 ≤ (if p then 0 else k) ∧ (p ↔ (if p then 0 else k) = 0) := by
  by_cases hp : p
  · simp [hp]
  · simp [hp, hk.le, hk.ne']

/-- The score is perfect exactly if nothing lowers it, and never out of bounds. -/
theorem score_bounds (g : Graph) :
    0 ≤ (health g).score ∧ (health g).score ≤ 100 ∧
      ((health g).score = 100 ↔
        g.cycles = [] ∧ hubs g = [] ∧ orphans g = [] ∧ g.metrics.maxDepth ≤ 15) := by
  have hscore : (health g).score = max 0 (100 - balance ((issues g).map Issue.penalty) -
      5 * (g.cycles.length : Int) - (if 15 < g.metrics.maxDepth then 10 else 0)) := rfl
  have hdepth : (if 15 < g.metrics.maxDepth then 10 else 0 : Int) =
      if g.metrics.maxDepth ≤ 15 then 0 else 10 := by
    simp only [← Nat.not_le, ite_not]
  have hlength : g.cycles = [] → g.cycles.length = 0 := fun h => by rw [h, List.length_nil]
  rw [hscore, penalty_issues, hdepth]
  -- The four parts that lower the score, as numbers.
  obtain ⟨hcycles, hnoCycles⟩ := cost_cases (g.cycles = []) (k := 20) (by decide)
  obtain ⟨hhubs, hnoHubs⟩ := cost_cases (hubs g = []) (k := 10) (by decide)
  obtain ⟨horphans, hnoOrphans⟩ := cost_cases (orphans g = []) (k := 5) (by decide)
  obtain ⟨hdeep, hshallow⟩ := cost_cases (g.metrics.maxDepth ≤ 15) (k := 10) (by decide)
  generalize (if g.cycles = [] then 0 else 20 : Int) = a at *
  generalize (if hubs g = [] then 0 else 10 : Int) = b at *
  generalize (if orphans g = [] then 0 else 5 : Int) = c at *
  generalize (if g.metrics.maxDepth ≤ 15 then 0 else 10 : Int) = d at *
  rw [hnoCycles] at hlength
  rw [hnoCycles, hnoHubs, hnoOrphans, hshallow]
  omega

/-! ## Soundness -/

/-- Nothing is to be said against a graph, going by its edges alone. -/
structure Sound (g : Graph) : Prop where
  /-- No edges lead from a node back to it. -/
  acyclic : ¬ ∃ v, TransGen g.Joins v v
  /-- Every node other than a module is an end of an edge. -/
  connected : ∀ n ∈ g.nodes, n.type ≠ "module" → ∃ e ∈ g.edges, e.source = n.id ∨ e.target = n.id
  /-- No node has more edges out than five, or than a tenth of the nodes. -/
  modest : ∀ n ∈ g.nodes,
    ((g.edges.filter (·.source = n.id)).length : ℚ) ≤ max 5 ((g.nodes.length : ℚ) / 10)
  /-- No walk takes more than fifteen edges between components. -/
  shallow : ∀ w, g.Walk w → g.crossings w ≤ 15

/-- The score of a graph that is built is perfect exactly if the graph is sound. -/
theorem perfect_score_iff (o : Options) (entities : List Entity) (references : List Reference) :
    let g := build o entities references
    0 ≤ (health g).score ∧ (health g).score ≤ 100 ∧ ((health g).score = 100 ↔ Sound g) := by
  intro g
  obtain ⟨hlow, hhigh, hperfect⟩ := score_bounds g
  refine ⟨hlow, hhigh, hperfect.trans ?_⟩
  rw [cycles_build_eq_nil_iff, hubs_eq_nil_iff, orphans_eq_nil_iff,
    maxDepth_le_iff (.built o entities references)]
  simp only [outDegree_eq_length]
  constructor
  · rintro ⟨hacyclic, hmodest, hconnected, hshallow⟩
    exact ⟨hacyclic, hconnected, hmodest, hshallow⟩
  · rintro ⟨hacyclic, hconnected, hmodest, hshallow⟩
    exact ⟨hacyclic, hmodest, hconnected, hshallow⟩

end Graph
end CrossAudit
