import CrossAudit.Proofs.Failing
import CrossAudit.Proofs.Graph.EdgeWalk
import CrossAudit.Proofs.Number.Rounding
import Mathlib.Algebra.Order.BigOperators.Group.List
import Mathlib.Order.Bounds.Basic

/-!
# The depth of a graph and its walks

Depths are computed in one pass over the components, each from the depths of those that it leads to.
A look-up that finds nothing would count as depth zero and go unnoticed.  So the pass is repeated
here with look-ups that fail, and it never does: sinks come first, and everything that is accessible
is in a component.  What it computes is then read off the walks along the edges of the graph.

Main results:

- Theorem `requireMeasure_eq_ok`: no look-up of the pass fails.
- Theorem `isGreatest_depthFrom`: the depth of a node is the greatest number of edges between
  components that a walk from it takes.
- Theorem `exists_value_averageDepth`: the average is rounded once.
- Theorem `depths_told`: the figures on the depth of a graph are told by its walks.
-/

namespace CrossAudit
namespace Graph

/-! ## Look-ups that fail -/

/-- The depth of a node; fails with the name of the node if it is in no component. -/
def Depths.require (ds : Depths) (node : String) : Except String Nat :=
  match ds.find? fun d => d.1.contains node with
  | some d => .ok d.2
  | none => .error node

/-- As `depthOf`, but every look-up has to succeed. -/
def requireDepthOf (adj : Adjacency) (ds : Depths) (component : List String) :
    Except String Nat := do
  let others := (component.flatMap adj.targets).filter fun target => !component.contains target
  return greatest ((← others.mapM ds.require).map (· + 1))

/-- As `depths`, but every look-up has to succeed. -/
def requireDepths (adj : Adjacency) (cs : List (List String)) : Except String Depths :=
  cs.foldlM (fun ds c => do return ds ++ [(c, ← requireDepthOf adj ds c)]) []

/-- As `measure`, but every look-up has to succeed. -/
def requireMeasure (order : List String) (adj : Adjacency) (edges cycles : Nat) :
    Except String Metrics := do
  let cs := components order adj
  let ds ← requireDepths adj cs
  let own ← order.mapM ds.require
  return { nodes := order.length
           edges := edges
           cycles := cycles
           components := cs.length
           maxDepth := greatest own
           averageDepth := ratio (total own) order.length
           density := ratio edges (order.length * (order.length - 1)) }

section Require

variable {adj : Adjacency} {ds : Depths} {cs : List (List String)} {c : List String} {v : String}

theorem require_eq_ok (h : v ∈ (ds.map (·.1)).flatten) : ds.require v = .ok (ds.of v) := by
  unfold Depths.require Depths.of
  cases hfound : ds.find? fun d => d.1.contains v with
  | some d => rfl
  | none =>
      rw [List.find?_eq_none] at hfound
      rw [List.mem_flatten] at h
      rcases h with ⟨names, hnames, hv⟩
      rcases List.mem_map.1 hnames with ⟨d, hd, rfl⟩
      exact absurd (List.contains_iff_mem.2 hv) (hfound d hd)

theorem map_filter_eq_filterMap (f : String → Nat) (names targets : List String) :
    (targets.filter fun t => !names.contains t).map f =
      targets.filterMap fun t => if names.contains t then none else some (f t) := by
  induction targets with
  | nil => rfl
  | cons t targets ih => by_cases ht : t ∈ names <;> simp_all

/-- The depths that a component asks for are known if it only leads to components before it. -/
theorem requireDepthOf_eq_ok
    (h : ∀ u ∈ c, ∀ v, adj.Leads u v → v ∈ c ∨ v ∈ (ds.map (·.1)).flatten) :
    requireDepthOf adj ds c = .ok (depthOf adj ds c) := by
  have hfound : ∀ t ∈ (c.flatMap adj.targets).filter (fun t => !c.contains t),
      ds.require t = .ok (ds.of t) := by
    intro t ht
    rcases List.mem_filter.1 ht with ⟨hmem, hnot⟩
    rcases List.mem_flatMap.1 hmem with ⟨u, hu, hut⟩
    refine require_eq_ok ((h u hu t hut).resolve_left ?_)
    simpa using hnot
  unfold requireDepthOf depthOf
  simp only [mapM_eq_ok_map hfound]
  rw [← map_filter_eq_filterMap (fun t => ds.of t + 1)]
  simp [pure, Except.pure, bind, Except.bind, Function.comp_def]

/-- No look-up of the pass over components that come sinks first fails. -/
theorem requireDepths_eq_ok (h : SinksFirst adj cs) :
    requireDepths adj cs = .ok (depths adj cs) := by
  induction h with
  | nil => rfl
  | @snoc cs c _ hleads ih =>
      unfold requireDepths at ih ⊢
      have hlast : requireDepthOf adj (depths adj cs) c = .ok (depthOf adj (depths adj cs) c) :=
        requireDepthOf_eq_ok fun u hu v huv => by
          rw [map_fst_depths]
          exact hleads u hu v huv
      rw [List.foldlM_append, ih, depths_concat]
      simp [hlast, bind, Except.bind, pure, Except.pure]

end Require

/-- No look-up fails when a graph is measured. -/
theorem requireMeasure_eq_ok (order : List String) (adj : Adjacency) (edges cycles : Nat) :
    requireMeasure order adj edges cycles = .ok (measure order adj edges cycles) := by
  have h := condensation_components order adj
  have hown : ∀ v ∈ order, (depths adj (components order adj)).require v =
      .ok ((depths adj (components order adj)).of v) := by
    intro v hv
    refine require_eq_ok ?_
    rw [map_fst_depths]
    exact (h.mem_iff v).2 (Adjacency.Accessible.of_mem hv)
  unfold requireMeasure measure
  simp only [requireDepths_eq_ok h.sinks_first, bind, Except.bind, pure, Except.pure]
  rw [show order.mapM (depths adj (components order adj)).require = _ from mapM_eq_ok_map hown]

/-! ## Walks from one node -/

/-- The greatest number of edges between components on a walk from a node. -/
noncomputable def depthFrom (g : Graph) (v : String) : Nat :=
  sSup {n | ∃ w, g.Walk w ∧ w.head? = some v ∧ g.crossings w = n}

section DepthFrom

variable {g : Graph} {v : String}

theorem setOf_crossings_eq (hv : v ∈ g.ids) :
    {n | ∃ w, g.Walk w ∧ w.head? = some v ∧ g.crossings w = n} =
      {n | Crosses g.adjacency v n} := by
  ext n
  refine Iff.trans ?_ crosses_adjacency_iff.symm
  constructor
  · rintro ⟨w, hwalk, hhead, hcount⟩
    exact ⟨w, hhead, hwalk.chain, hcount⟩
  · rintro ⟨w, hhead, hchain, hcount⟩
    exact ⟨w, ⟨⟨v, hv, hhead⟩, hchain⟩, hhead, hcount⟩

theorem depthFrom_eq (hv : v ∈ g.ids) : g.depthFrom v = g.adjacency.depth v := by
  rw [depthFrom, setOf_crossings_eq hv, Adjacency.depth]

/-- The depth of a node is attained by a walk from it. -/
theorem isGreatest_depthFrom (hv : v ∈ g.ids) :
    IsGreatest {n | ∃ w, g.Walk w ∧ w.head? = some v ∧ g.crossings w = n} (g.depthFrom v) := by
  have h := condensation_components g.ids g.adjacency
  have haccessible : g.adjacency.Accessible g.ids v := Adjacency.Accessible.of_mem hv
  rw [setOf_crossings_eq hv, depthFrom_eq hv, ← of_depths_components haccessible]
  exact isGreatest_depths h.sinks_first h.nodup h.component ((h.mem_iff v).2 haccessible)

theorem nodeDepths_eq_map_depthFrom (g : Graph) : g.nodeDepths = g.ids.map g.depthFrom := by
  rw [nodeDepths_eq]
  exact List.map_congr_left fun v hv => (depthFrom_eq hv).symm

theorem meanDepth_mul (g : Graph) :
    g.meanDepth * g.nodes.length = ((g.ids.map g.depthFrom).sum : ℚ) := by
  rw [← nodeDepths_eq_map_depthFrom, ← total_eq_sum, meanDepth]
  by_cases hempty : g.nodes = []
  · simp [nodeDepths, ids, hempty, total]
  · exact div_mul_cancel₀ _ (Nat.cast_ne_zero.2 (List.length_pos_iff.2 hempty).ne')

/-- A node of a graph that is not empty has the greatest depth of all walks. -/
theorem isGreatest_greatest (hne : g.nodes ≠ []) :
    IsGreatest {n | ∃ w, g.Walk w ∧ g.crossings w = n} (greatest g.nodeDepths) := by
  rw [nodeDepths_eq_map_depthFrom]
  constructor
  · -- Some node has the greatest depth; if that is zero, any node will do.
    have hnode : ∃ v ∈ g.ids, g.depthFrom v = greatest (g.ids.map g.depthFrom) := by
      by_cases hzero : greatest (g.ids.map g.depthFrom) = 0
      · rcases List.exists_mem_of_ne_nil g.nodes hne with ⟨n, hn⟩
        have hid : n.id ∈ g.ids := List.mem_map_of_mem hn
        refine ⟨n.id, hid, ?_⟩
        have hle := le_greatest (List.mem_map_of_mem (f := g.depthFrom) hid)
        omega
      · rcases List.mem_map.1 (greatest_mem hzero) with ⟨v, hv, heq⟩
        exact ⟨v, hv, heq⟩
    rcases hnode with ⟨v, hv, heq⟩
    rw [← heq]
    rcases (isGreatest_depthFrom hv).1 with ⟨w, hwalk, _, hcount⟩
    exact ⟨w, hwalk, hcount⟩
  · rintro n ⟨w, hwalk, hcount⟩
    rcases hwalk.start with ⟨v, hv, hhead⟩
    exact ((isGreatest_depthFrom hv).2 ⟨w, hwalk, hhead, hcount⟩).trans
      (le_greatest (List.mem_map_of_mem hv))

end DepthFrom

/-! ## Graphs that are put together -/

/-- Graphs that are built, or narrowed. -/
inductive Made : Graph → Prop where
  | built (o : Options) (entities : List Entity) (references : List Reference) :
      Made (build o entities references)
  | narrowed (o : Options) (g : Graph) (focus : List String) (steps : Nat) :
      Made (narrow o g focus steps)

/-- A graph that is made carries the figures of its own nodes and edges. -/
theorem Made.metrics_eq {g : Graph} (h : Made g) :
    g.metrics = measure g.ids g.adjacency g.edges.length g.cycles.length := by
  cases h <;> rfl

theorem Made.maxDepth_eq {g : Graph} (h : Made g) :
    g.metrics.maxDepth = greatest g.nodeDepths := by
  rw [h.metrics_eq]
  rfl

theorem Made.averageDepth_eq {g : Graph} (h : Made g) :
    g.metrics.averageDepth = .ofRat g.meanDepth := by
  have hratio : (measure g.ids g.adjacency g.edges.length g.cycles.length).averageDepth =
      ratio (total g.nodeDepths) g.ids.length := rfl
  rw [h.metrics_eq, hratio, ratio_eq_ofRat, meanDepth, ids, List.length_map]

/-- The mean of the depths is no greater than the greatest of them. -/
theorem meanDepth_le (g : Graph) : g.meanDepth ≤ greatest g.nodeDepths := by
  have hsum : g.nodeDepths.sum ≤ g.nodeDepths.length • greatest g.nodeDepths :=
    List.sum_le_card_nsmul _ _ fun n hn => le_greatest hn
  have hlength : g.nodeDepths.length = g.nodes.length := by simp [nodeDepths, ids]
  rw [hlength, nsmul_eq_mul, Nat.cast_id, mul_comm] at hsum
  rw [meanDepth, total_eq_sum]
  exact div_le_of_le_mul₀ (Nat.cast_nonneg _) (Nat.cast_nonneg _) (by exact_mod_cast hsum)

/-- The average depth of a graph of no absurd size, times the number of nodes, is the sum of their
depths up to the error of rounding once. -/
theorem Made.exists_value_averageDepth {g : Graph} (h : Made g)
    (hnodes : g.nodes.length ≤ 2 ^ 1022) (hdepth : g.metrics.maxDepth < 2 ^ 1023) :
    ∃ x, g.metrics.averageDepth.value? = some x ∧
      |x * g.nodes.length - ((g.ids.map g.depthFrom).sum : ℚ)| ≤
        ((g.ids.map g.depthFrom).sum : ℚ) / 2 ^ 53 := by
  rw [h.averageDepth_eq, ← meanDepth_mul]
  rcases Nat.eq_zero_or_pos (total g.nodeDepths) with hzero | hpos
  · have hmean : g.meanDepth = 0 := by simp [meanDepth, hzero]
    exact ⟨0, by simp [hmean, Binary64.ofRat, Binary64.round, Binary64.value?], by simp [hmean]⟩
  · have hlength : 0 < g.nodes.length := by
      rw [List.length_pos_iff]
      rintro hempty
      simp [nodeDepths, ids, hempty, total] at hpos
    have hlow : (2 : ℚ) ^ (-1022 : ℤ) ≤ g.meanDepth := by
      have hmean : (0 : ℚ) < g.meanDepth := div_pos (Nat.cast_pos.2 hpos) (Nat.cast_pos.2 hlength)
      rw [zpow_neg, inv_le_comm₀ (zpow_pos two_pos _) hmean, meanDepth, inv_div]
      refine (div_le_self (Nat.cast_nonneg _) (Nat.one_le_cast.2 hpos)).trans ?_
      exact_mod_cast hnodes
    have hhigh : g.meanDepth < (2 : ℚ) ^ (1023 : ℤ) := by
      rw [h.maxDepth_eq] at hdepth
      exact (meanDepth_le g).trans_lt (by exact_mod_cast hdepth)
    rcases Binary64.exists_ofRat_eq_finite hlow hhigh with ⟨x, hx, herror⟩
    refine ⟨x, by rw [hx]; rfl, ?_⟩
    have hn : (0 : ℚ) ≤ g.nodes.length := Nat.cast_nonneg _
    calc |x * g.nodes.length - g.meanDepth * g.nodes.length|
        = |x - g.meanDepth| * g.nodes.length := by rw [← sub_mul, abs_mul, abs_of_nonneg hn]
      _ ≤ g.meanDepth / 2 ^ 53 * g.nodes.length := mul_le_mul_of_nonneg_right herror hn
      _ = g.meanDepth * g.nodes.length / 2 ^ 53 := by ring

/-- The figures on the depth of a graph, told by its walks.  The average is the mean of the depths,
rounded once; so times the number of nodes it is their sum up to that rounding. -/
structure DepthsTold (g : Graph) : Prop where
  found : requireMeasure g.ids g.adjacency g.edges.length g.cycles.length = .ok g.metrics
  empty : g.nodes = [] → g.metrics.maxDepth = 0
  deepest : g.nodes ≠ [] →
    IsGreatest {n | ∃ w, g.Walk w ∧ g.crossings w = n} g.metrics.maxDepth
  each : ∀ v ∈ g.ids,
    IsGreatest {n | ∃ w, g.Walk w ∧ w.head? = some v ∧ g.crossings w = n} (g.depthFrom v)
  average : ∃ mean : ℚ, g.metrics.averageDepth = .ofRat mean ∧
    mean * g.nodes.length = ((g.ids.map g.depthFrom).sum : ℚ)
  product : g.nodes.length ≤ 2 ^ 1022 → g.metrics.maxDepth < 2 ^ 1023 →
    ∃ x, g.metrics.averageDepth.value? = some x ∧
      |x * g.nodes.length - ((g.ids.map g.depthFrom).sum : ℚ)| ≤
        ((g.ids.map g.depthFrom).sum : ℚ) / 2 ^ 53

/-- The figures on the depth of a graph that is built or narrowed are told by its walks. -/
theorem depths_told {g : Graph} (h : Made g) : DepthsTold g where
  found := by
    rw [requireMeasure_eq_ok, ← h.metrics_eq]
  empty := by
    intro hempty
    rw [h.maxDepth_eq, nodeDepths, ids, hempty]
    rfl
  deepest := by
    intro hne
    rw [h.maxDepth_eq]
    exact isGreatest_greatest hne
  each := fun _ hv => isGreatest_depthFrom hv
  average := ⟨g.meanDepth, h.averageDepth_eq, meanDepth_mul g⟩
  product := h.exists_value_averageDepth

/-- Two functions that call each other, then a third and a fourth; narrowed to the first three. -/
def downhill : Graph :=
  narrow {}
    (build {} [functionNamed "a", functionNamed "b", functionNamed "c", functionNamed "d"]
      [callBetween "a" "b", callBetween "b" "a", callBetween "b" "c", callBetween "c" "d"])
    ["b"] 1

/-- Only the third of them is a sink. -/
theorem nodeDepths_downhill : downhill.nodeDepths = [1, 1, 0] := by
  have hids : downhill.ids = ["a", "b", "c"] := by decide +kernel
  have hadjacency : downhill.adjacency = [("a", ["b"]), ("b", ["a", "c"]), ("c", [])] := by
    decide +kernel
  have hcomponents : components ["a", "b", "c"] [("a", ["b"]), ("b", ["a", "c"]), ("c", [])] =
      [["c"], ["b", "a"]] := by
    simp +decide [components, Adjacency.mentioned, scanFrom, scanComponents, Scan.enter,
      Scan.leave, Scan.close, Visit.start, Adjacency.targets, List.lookup_cons, without, lowerHead]
  rw [nodeDepths, hids, hadjacency, hcomponents]
  decide +kernel

/-- Its deepest walk leaves the cycle once, and the mean of the depths is rounded. -/
theorem depths_told_downhill :
    downhill.metrics.maxDepth = 1 ∧ downhill.metrics.averageDepth = .ofRat (2 / 3) ∧
    DepthsTold downhill := by
  have hmade : Made downhill := .narrowed ..
  have hlength : downhill.nodes.length = 3 := by decide +kernel
  refine ⟨?_, ?_, depths_told hmade⟩
  · rw [hmade.maxDepth_eq, nodeDepths_downhill]
    rfl
  · rw [hmade.averageDepth_eq, meanDepth, nodeDepths_downhill, hlength]
    norm_num [total]

end Graph
end CrossAudit
