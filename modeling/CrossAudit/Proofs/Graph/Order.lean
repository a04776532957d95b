import CrossAudit.Graph.Build
import CrossAudit.Proofs.Assoc
import CrossAudit.Proofs.Graph.CycleSearch
import CrossAudit.Proofs.Graph.Depth
import Mathlib.Algebra.Field.Rat

/-!
# Graphs do not depend on the order of what they are built from

Every search runs in the order of nodes and edges, so its steps differ from one order to the other.
But what is counted is told by the nodes, and by which of them leads to which; and that is told by
the ends and the kinds of the references.

Main results:

- Theorem `leads_tableOf_iff`: a table leads along edges, and nowhere else.
- Theorem `mem_keys_edgesAmong_iff`: there is an edge for each kind of reference between two nodes.
- Theorem `sameFigures_assemble`: graphs with the same nodes and the same kinds of edges between
  them have the same figures.
- Theorem `build_order_independent`: entities and references in another order give the same graph,
  up to the order of its nodes and edges.
-/

namespace CrossAudit
namespace Graph

open Relation

/-! ## Tables of edges -/

/-- Adding a target adds that one only. -/
theorem mem_addTarget_iff (target v : String) (targets : List String) :
    v ∈ addTarget target targets ↔ v ∈ targets ∨ v = target := by
  unfold addTarget
  split
  · rename_i h
    have htarget : target ∈ targets := by simpa using h
    constructor
    · exact Or.inl
    · rintro (hv | rfl)
      · exact hv
      · exact htarget
  · simp

/-- One more edge leads from its source to its target. -/
theorem leads_update_iff (adj : Adjacency) (e : Edge) (u v : String) :
    Adjacency.Leads (Assoc.update e.source [] (addTarget e.target) adj) u v ↔
      adj.Leads u v ∨ e.source = u ∧ e.target = v := by
  unfold Adjacency.Leads Adjacency.targets
  rw [Assoc.lookup_update]
  by_cases hu : u = e.source
  · subst hu
    simp [mem_addTarget_iff, eq_comm]
  · have hu' : (u == e.source) = false := beq_false_of_ne hu
    simp [hu', Ne.symm hu]

/-- Nodes without edges lead nowhere. -/
theorem not_leads_ofPairs (ids : List String) (u v : String) :
    ¬ Adjacency.Leads (Assoc.ofPairs (ids.map fun id => (id, []))) u v := by
  intro h
  rcases Adjacency.exists_row_of_leads h with ⟨row, hrow, hv⟩
  rcases Assoc.exists_of_mem_ofPairs hrow with ⟨q, hq, heq⟩
  rcases List.mem_map.1 hq with ⟨id, _, rfl⟩
  rw [← heq] at hv
  exact absurd hv List.not_mem_nil

/-- A table leads along the edges that it was made of, and nowhere else. -/
theorem leads_tableOf_iff (nodes : List Node) (edges : List Edge) (u v : String) :
    (tableOf nodes edges).Leads u v ↔ ∃ e ∈ edges, e.source = u ∧ e.target = v := by
  have hrun : ∀ adj : Adjacency,
      Adjacency.Leads
          (edges.foldl (fun adj e => Assoc.update e.source [] (addTarget e.target) adj) adj) u v ↔
        adj.Leads u v ∨ ∃ e ∈ edges, e.source = u ∧ e.target = v := by
    induction edges with
    | nil => simp
    | cons e rest ih =>
        intro adj
        rw [List.foldl_cons, ih, leads_update_iff]
        simp [or_assoc]
  have hstart : ¬ Adjacency.Leads (Assoc.ofPairs (nodes.map fun n => (n.id, []))) u v := by
    simpa [List.map_map, Function.comp_def] using not_leads_ofPairs (nodes.map (·.id)) u v
  exact (hrun _).trans (or_iff_right hstart)

/-- Which nodes lead to which is told by what tells edges apart. -/
theorem leads_tableOf_congr {nodes nodes' : List Node} {edges edges' : List Edge}
    (h : (edges'.map Edge.key).Perm (edges.map Edge.key)) :
    (tableOf nodes' edges').Leads = (tableOf nodes edges).Leads := by
  have hkeys : ∀ (es : List Edge) (u v : String), (∃ e ∈ es, e.source = u ∧ e.target = v) ↔
      ∃ k ∈ es.map Edge.key, k.1 = u ∧ k.2.1 = v := by
    intro es u v
    simp [Edge.key]
  funext u v
  rw [eq_iff_iff, leads_tableOf_iff, leads_tableOf_iff, hkeys, hkeys]
  simp only [h.mem_iff]

/-! ## Edges of references -/

section Edges

/-- Adding an edge adds its key only. -/
theorem mem_keys_addEdge_iff (edges : List Edge) (e : Edge) (k : String × String × String) :
    k ∈ (addEdge edges e).map Edge.key ↔ k ∈ edges.map Edge.key ∨ k = e.key := by
  unfold addEdge
  split
  · rename_i h
    have hkey : e.key ∈ edges.map Edge.key := by simpa using h
    constructor
    · exact Or.inl
    · rintro (hk | rfl)
      · exact hk
      · exact hkey
  · simp [eq_comm]

/-- No key stands twice after an edge is added. -/
theorem nodup_keys_addEdge {edges : List Edge} (h : (edges.map Edge.key).Nodup) (e : Edge) :
    ((addEdge edges e).map Edge.key).Nodup := by
  unfold addEdge
  split
  · exact h
  · rename_i hnew
    have hkey : e.key ∉ edges.map Edge.key := by simpa using hnew
    rw [List.map_append, List.nodup_append]
    refine ⟨h, by simp, ?_⟩
    rintro k hk _ hlast rfl
    rw [List.map_singleton, List.mem_singleton] at hlast
    exact hkey (hlast ▸ hk)

/-- Adding edges one by one keeps keys distinct, and adds theirs and no others. -/
theorem foldl_addEdge (added edges : List Edge) (h : (edges.map Edge.key).Nodup) :
    ((added.foldl addEdge edges).map Edge.key).Nodup ∧
      ∀ k, k ∈ (added.foldl addEdge edges).map Edge.key ↔
        k ∈ edges.map Edge.key ∨ k ∈ added.map Edge.key := by
  induction added generalizing edges with
  | nil => exact ⟨h, by simp⟩
  | cons e rest ih =>
      rcases ih (addEdge edges e) (nodup_keys_addEdge h e) with ⟨hnodup, hmem⟩
      refine ⟨hnodup, fun k => ?_⟩
      rw [List.foldl_cons, hmem, mem_keys_addEdge_iff, List.map_cons, List.mem_cons, or_assoc]

variable (ids : List String) (references : List Reference)

/-- No two edges have the same ends and the same kind. -/
theorem nodup_keys_edgesAmong : ((edgesAmong ids references).map Edge.key).Nodup :=
  (foldl_addEdge _ [] List.nodup_nil).1

/-- There is an edge for each kind of reference between two nodes. -/
theorem mem_keys_edgesAmong_iff (k : String × String × String) :
    k ∈ (edgesAmong ids references).map Edge.key ↔
      ∃ r ∈ references, r.sourceId ∈ ids ∧ r.targetId ∈ ids ∧
        k = (r.sourceId, r.targetId, r.type) := by
  unfold edgesAmong
  rw [(foldl_addEdge _ [] List.nodup_nil).2, List.map_map]
  constructor
  · rintro (hk | hk)
    · exact absurd hk List.not_mem_nil
    · rcases List.mem_map.1 hk with ⟨r, hr, rfl⟩
      rcases List.mem_filter.1 hr with ⟨hmem, hjoins⟩
      rw [Bool.and_eq_true, List.contains_iff_mem, List.contains_iff_mem] at hjoins
      exact ⟨r, hmem, hjoins.1, hjoins.2, rfl⟩
  · rintro ⟨r, hmem, hsource, htarget, rfl⟩
    refine Or.inr (List.mem_map.2 ⟨r, List.mem_filter.2 ⟨hmem, ?_⟩, rfl⟩)
    rw [Bool.and_eq_true, List.contains_iff_mem, List.contains_iff_mem]
    exact ⟨hsource, htarget⟩

/-- The ends of an edge are nodes. -/
theorem ends_of_mem_edgesAmong {e : Edge} (h : e ∈ edgesAmong ids references) :
    e.source ∈ ids ∧ e.target ∈ ids := by
  rcases (mem_keys_edgesAmong_iff ids references e.key).1 (List.mem_map_of_mem h) with
    ⟨r, _, hsource, htarget, hkey⟩
  simp only [Edge.key, Prod.mk.injEq] at hkey
  rw [hkey.1, hkey.2.1]
  exact ⟨hsource, htarget⟩

end Edges

/-! ## What only depends on where nodes lead -/

section Congruence

variable {adj adj' : Adjacency}

/-- What is reached depends on where nodes lead only. -/
theorem reaches_congr (h : adj'.Leads = adj.Leads) : adj'.Reaches = adj.Reaches := by
  rw [Adjacency.Reaches, Adjacency.Reaches, h]

/-- What is accessible depends neither on the order of the nodes nor on that of their targets. -/
theorem accessible_congr (h : adj'.Leads = adj.Leads) {order order' : List String}
    (horder : order'.Perm order) : adj'.Accessible order' = adj.Accessible order := by
  funext v
  simp only [Adjacency.Accessible, reaches_congr h, horder.mem_iff]

/-- The components depend neither on the order of the nodes nor on that of their targets. -/
theorem classes_congr (h : adj'.Leads = adj.Leads) {order order' : List String}
    (horder : order'.Perm order) : adj'.classes order' = adj.classes order := by
  unfold Adjacency.classes Adjacency.classOf
  rw [reaches_congr h, accessible_congr h horder]

/-- How often a walk may cross between components depends on where nodes lead only. -/
theorem Crosses.congr (h : adj'.Leads = adj.Leads) {v : String} {n : Nat}
    (hcross : Crosses adj v n) : Crosses adj' v n := by
  induction hcross with
  | stop u => exact .stop u
  | within huv hvu _ ih => exact .within (h ▸ huv) (reaches_congr h ▸ hvu) ih
  | across huv hvu _ ih => exact .across (h ▸ huv) (reaches_congr h ▸ hvu) ih

/-- Depths depend on where nodes lead only. -/
theorem depth_congr (h : adj'.Leads = adj.Leads) : adj'.depth = adj.depth := by
  funext v
  have hsame : {n | Crosses adj' v n} = {n | Crosses adj v n} := by
    ext n
    exact ⟨Crosses.congr h.symm, Crosses.congr h⟩
  rw [Adjacency.depth, Adjacency.depth, hsame]

end Congruence

/-- No cycle is found exactly if no directed cycle is accessible. -/
theorem cyclesFrom_eq_nil_iff (order : List String) (adj : Adjacency) :
    cyclesFrom order adj = [] ↔ ∀ v, adj.Accessible order v → ¬ TransGen adj.Leads v v := by
  constructor
  · intro hnone v hv hcycle
    rcases exists_search_cyclesFrom order adj with ⟨entered, left, fresh, hrun, hleft⟩
    have hremains : adj.Leads ≤ Remains adj (cyclesFrom order adj) := by
      intro a b hab
      exact ⟨hab, by simp [IsClosing, hnone]⟩
    exact hrun.left_acyclic (hleft v hv) (TransGen.mono hremains v v hcycle)
  · intro hacyclic
    rw [List.eq_nil_iff_forall_not_mem]
    intro c hc
    rcases exists_transGen_of_mem_cyclesFrom hc with ⟨v, hv, hcycle⟩
    exact hacyclic v hv hcycle

/-! ## Exact figures -/

/-- A ratio is the rational number, rounded once. -/
theorem ratio_eq_ofRat (a b : Nat) : ratio a b = .ofRat ((a : ℚ) / (b : ℚ)) := by
  unfold ratio
  split
  · rename_i h
    subst h
    simp [Binary64.ofRat, Binary64.round, Binary64.zero]
  · rfl

/-- The names of the nodes of a graph. -/
def ids (g : Graph) : List String :=
  g.nodes.map (·.id)

/-- The depths of the nodes of a graph. -/
def nodeDepths (g : Graph) : List Nat :=
  g.ids.map (depths g.adjacency (components g.ids g.adjacency)).of

/-- The depth of a node on average. -/
def meanDepth (g : Graph) : ℚ :=
  (total g.nodeDepths : ℚ) / (g.nodes.length : ℚ)

/-- The number of edges, as a part of the number of ordered pairs of different nodes. -/
def exactDensity (g : Graph) : ℚ :=
  (g.edges.length : ℚ) / ((g.nodes.length * (g.nodes.length - 1) : Nat) : ℚ)

/-- The depths of a graph are those of its nodes, in order. -/
theorem nodeDepths_eq (g : Graph) : g.nodeDepths = g.ids.map g.adjacency.depth :=
  List.map_congr_left fun _ hv => of_depths_components (Adjacency.Accessible.of_mem hv)

/-- Graphs with the same figures, quotients also before they are rounded, and with cycles in both or
in none of them. -/
structure SameFigures (g g' : Graph) : Prop where
  nodes : g'.metrics.nodes = g.metrics.nodes
  edges : g'.metrics.edges = g.metrics.edges
  components : g'.metrics.components = g.metrics.components
  maxDepth : g'.metrics.maxDepth = g.metrics.maxDepth
  averageDepth : g'.metrics.averageDepth = g.metrics.averageDepth
  meanDepth : g'.meanDepth = g.meanDepth
  density : g'.metrics.density = g.metrics.density
  exactDensity : g'.exactDensity = g.exactDensity
  cycles : g'.cycles = [] ↔ g.cycles = []

/-- Graphs with the same nodes and the same kinds of edges between them have the same figures. -/
theorem sameFigures_assemble (o : Options) {nodes nodes' : List Node} {edges edges' : List Edge}
    (hnodes : (nodes'.map (·.id)).Perm (nodes.map (·.id)))
    (hedges : (edges'.map Edge.key).Perm (edges.map Edge.key)) :
    SameFigures (assemble o nodes edges) (assemble o nodes' edges') := by
  have hleads : (tableOf nodes' edges').Leads = (tableOf nodes edges).Leads :=
    leads_tableOf_congr hedges
  have hlength : nodes'.length = nodes.length := by simpa using hnodes.length_eq
  have hcount : edges'.length = edges.length := by simpa using hedges.length_eq
  have hdepths : (assemble o nodes' edges').nodeDepths.Perm
      (assemble o nodes edges).nodeDepths := by
    rw [nodeDepths_eq, nodeDepths_eq]
    have hdepth : (assemble o nodes' edges').adjacency.depth =
        (assemble o nodes edges).adjacency.depth := depth_congr hleads
    rw [hdepth]
    exact hnodes.map _
  have htotal : total (assemble o nodes' edges').nodeDepths =
      total (assemble o nodes edges).nodeDepths := by
    rw [total_eq_sum, total_eq_sum, hdepths.sum_eq]
  have hcomponents : (components (nodes'.map (·.id)) (tableOf nodes' edges')).length =
      (components (nodes.map (·.id)) (tableOf nodes edges)).length := by
    rw [(condensation_components _ _).length_eq, (condensation_components _ _).length_eq,
      classes_congr hleads hnodes]
  have hcycles : cyclesFrom (nodes'.map (·.id)) (tableOf nodes' edges') = [] ↔
      cyclesFrom (nodes.map (·.id)) (tableOf nodes edges) = [] := by
    rw [cyclesFrom_eq_nil_iff, cyclesFrom_eq_nil_iff, accessible_congr hleads hnodes, hleads]
  exact
    { nodes := hnodes.length_eq
      edges := hcount
      components := hcomponents
      maxDepth := greatest_perm hdepths
      averageDepth := congrArg₂ ratio htotal hnodes.length_eq
      meanDepth := by
        simp only [Graph.meanDepth, htotal]
        simp only [assemble, hlength]
      density := by
        simp only [assemble, measure, hcount, hnodes.length_eq]
      exactDensity := by
        simp only [Graph.exactDensity, assemble, hcount, hlength]
      cycles := by
        simpa only [assemble, detectCycles, List.map_eq_nil_iff] using hcycles }

/-! ## Graphs of entities and references -/

/-- What a graph of entities and references is, up to the order of its nodes and edges. -/
structure Depicts (o : Options) (entities : List Entity) (references : List Reference)
    (g : Graph) : Prop where
  nodes : g.nodes.Perm ((entities.filter fun e => e.language ∉ o.excludedLanguages ∧
    (o.includeTests = true ∨ isTestFile e.file = false)).map (nodeOf o))
  nodes_once : g.ids.Nodup
  ends : ∀ e ∈ g.edges, e.source ∈ g.ids ∧ e.target ∈ g.ids
  edges : ∀ k, k ∈ g.edges.map Edge.key ↔ ∃ r ∈ references, r.sourceId ∈ g.ids ∧
    r.targetId ∈ g.ids ∧ k = (r.sourceId, r.targetId, r.type)
  edges_once : (g.edges.map Edge.key).Nodup
  averageDepth : g.metrics.averageDepth = .ofRat g.meanDepth
  density : g.metrics.density = .ofRat g.exactDensity

/-- The entities that options select are those of other languages than the excluded ones, without
tests unless these are wanted. -/
theorem filter_selects (o : Options) (entities : List Entity) :
    entities.filter o.selects = entities.filter fun e => e.language ∉ o.excludedLanguages ∧
      (o.includeTests = true ∨ isTestFile e.file = false) := by
  apply List.filter_congr
  intro e _
  simp [Options.selects]

/-- A graph that is built depicts the entities and references that its options select. -/
theorem depicts_build (o : Options) {entities : List Entity} (references : List Reference)
    (hids : (entities.map (·.id)).Nodup) :
    Depicts o entities references (build o entities references) where
  nodes := by
    rw [← filter_selects]
    exact List.Perm.refl _
  nodes_once := by
    have hnames : (build o entities references).ids = (entities.filter o.selects).map (·.id) := by
      simp [ids, build, assemble, nodeOf]
    rw [hnames]
    exact hids.sublist (List.filter_sublist.map _)
  ends := fun _ he => ends_of_mem_edgesAmong _ references he
  edges := mem_keys_edgesAmong_iff _ references
  edges_once := nodup_keys_edgesAmong _ references
  averageDepth := by
    have hratio : (build o entities references).metrics.averageDepth =
        ratio (total (build o entities references).nodeDepths)
          (build o entities references).ids.length := rfl
    rw [hratio, ratio_eq_ofRat, meanDepth, ids, List.length_map]
  density := by
    have hratio : (build o entities references).metrics.density =
        ratio (build o entities references).edges.length
          ((build o entities references).ids.length *
            ((build o entities references).ids.length - 1)) := rfl
    rw [hratio, ratio_eq_ofRat, exactDensity, ids, List.length_map]

/-- Entities and references in another order give the same graph, up to the order of its nodes and
edges, with the same figures. -/
theorem build_order_independent (o : Options) {entities entities' : List Entity}
    {references references' : List Reference} (hids : (entities.map (·.id)).Nodup)
    (hentities : entities'.Perm entities) (hreferences : references'.Perm references) :
    Depicts o entities references (build o entities references) ∧
    Depicts o entities references (build o entities' references') ∧
    SameFigures (build o entities references) (build o entities' references') := by
  have hids' : (entities'.map (·.id)).Nodup := (hentities.map _).nodup_iff.2 hids
  have hnodes : (build o entities' references').nodes.Perm (build o entities references).nodes :=
    (hentities.filter o.selects).map (nodeOf o)
  have hnames : (build o entities' references').ids.Perm (build o entities references).ids :=
    hnodes.map _
  have hgraph := depicts_build o references hids
  have hgraph' := depicts_build o references' hids'
  have hkeys : ∀ k, k ∈ (build o entities' references').edges.map Edge.key ↔
      k ∈ (build o entities references).edges.map Edge.key := by
    intro k
    rw [hgraph.edges, hgraph'.edges]
    simp only [hreferences.mem_iff, hnames.mem_iff]
  refine ⟨hgraph, ?_, ?_⟩
  · exact { hgraph' with
      nodes := hnodes.trans hgraph.nodes
      edges := by
        intro k
        rw [hgraph'.edges]
        simp only [hreferences.mem_iff] }
  · exact sameFigures_assemble o hnames
      ((List.perm_ext_iff_of_nodup hgraph'.edges_once hgraph.edges_once).2 hkeys)

/-- A function that goes by the given name. -/
def functionNamed (name : String) : Entity :=
  { id := name, name := name, language := "python", file := "app.py", type := "function"
    startLine := 1, endLine := 1 }

/-- A call from one function to another. -/
def callBetween (source target : String) : Reference :=
  { sourceId := source, targetId := target, type := "calls", sourceLanguage := "python"
    targetLanguage := "python", confidence := .zero }

/-- Two functions that call each other, one of which calls a third, in two orders. -/
theorem build_order_independent_pair :
    let g := build {} [functionNamed "a", functionNamed "b", functionNamed "c"]
      [callBetween "a" "b", callBetween "b" "a", callBetween "b" "c"]
    let g' := build {} [functionNamed "c", functionNamed "a", functionNamed "b"]
      [callBetween "b" "a", callBetween "b" "c", callBetween "a" "b"]
    g.metrics.nodes = 3 ∧ g.metrics.edges = 3 ∧ SameFigures g g' :=
  ⟨by decide +kernel, by decide +kernel,
    (build_order_independent {} (by decide)
      (List.perm_append_comm :
        ([functionNamed "c"] ++ [functionNamed "a", functionNamed "b"]).Perm _)
      (List.perm_append_comm :
        ([callBetween "b" "a", callBetween "b" "c"] ++ [callBetween "a" "b"]).Perm _)).2.2⟩

end Graph
end CrossAudit
