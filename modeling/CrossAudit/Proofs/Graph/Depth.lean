import CrossAudit.Graph.Depth
import CrossAudit.Proofs.Graph.ComponentSearch
import Mathlib.Data.Set.Card
import Mathlib.Order.Lattice.Nat

/-!
# Components and depths without a search

How many components there are and how deep a node lies is said with walks only.  Components are
classes of nodes that reach each other.  The depth of a node is the greatest number of edges between
different components that a walk from it takes; it is computed in one pass over the components,
since sinks come first and so the depths of all successors are known.

Main results:

- Theorem `Condensation.length_eq`: there are as many components as classes.
- Theorem `isGreatest_depths`: the pass over the components computes greatest numbers.
- Theorem `of_depths_components`: the depth of an accessible node is told by its walks.
-/

namespace CrossAudit
namespace Graph

open Relation

/-! ## Classes of nodes -/

namespace Adjacency

/-- The nodes that reach a node and are reached by it. -/
def classOf (adj : Adjacency) (v : String) : Set String :=
  {u | adj.Reaches v u ∧ adj.Reaches u v}

/-- The classes of the nodes that a list of nodes reaches. -/
def classes (adj : Adjacency) (order : List String) : Set (Set String) :=
  {c | ∃ v, adj.Accessible order v ∧ c = adj.classOf v}

end Adjacency

/-- Lists of nodes that are the classes of all accessible nodes, each once and sinks first. -/
structure Condensation (adj : Adjacency) (order : List String) (cs : List (List String)) :
    Prop where
  nodup : cs.flatten.Nodup
  sinks_first : SinksFirst adj cs
  component : ∀ c ∈ cs, IsComponent adj c
  mem_iff : ∀ v, v ∈ cs.flatten ↔ adj.Accessible order v

/-- The components that are found condense the graph. -/
theorem condensation_components (order : List String) (adj : Adjacency) :
    Condensation adj order (components order adj) := by
  rcases exists_scanning_components order adj with ⟨s, hrun, hcomponents, hmem⟩
  have hnodup := hrun.nodup
  have hsinks := hrun.sinks_first
  have hclasses := hrun.components
  rw [Scan.entered, hrun.opened_eq_nil, List.map_nil, List.nil_append, hcomponents] at hnodup
  rw [hcomponents] at hsinks hclasses
  exact ⟨hnodup, hsinks, hclasses, hmem⟩

namespace Condensation

variable {adj : Adjacency} {order : List String} {cs : List (List String)}

/-- The nodes of a component are the class of each of them. -/
theorem setOf_mem_eq (h : Condensation adj order cs) {c : List String} (hc : c ∈ cs) {v : String}
    (hv : v ∈ c) : {u | u ∈ c} = adj.classOf v := by
  ext u
  exact (h.component c hc).2 v hv u

/-- Different components are different sets of nodes. -/
theorem nodup_sets (h : Condensation adj order cs) : (cs.map fun c => {u | u ∈ c}).Nodup := by
  have hdisjoint : cs.Pairwise List.Disjoint := (List.nodup_flatten.1 h.nodup).2
  rw [List.Nodup, List.pairwise_map]
  refine hdisjoint.imp_of_mem fun {c d} hc _ hcd heq => ?_
  rcases List.exists_mem_of_ne_nil c (h.component c hc).1 with ⟨v, hv⟩
  have hvd : v ∈ {u | u ∈ d} := heq ▸ hv
  exact hcd hv hvd

/-- As sets, the components of a condensation are the classes of nodes that reach one another. -/
theorem mem_sets_iff (h : Condensation adj order cs) (s : Set String) :
    s ∈ cs.map (fun c => {u | u ∈ c}) ↔ s ∈ adj.classes order := by
  rw [List.mem_map]
  constructor
  · rintro ⟨c, hc, rfl⟩
    rcases List.exists_mem_of_ne_nil c (h.component c hc).1 with ⟨v, hv⟩
    exact ⟨v, (h.mem_iff v).1 (List.mem_flatten.2 ⟨c, hc, hv⟩), h.setOf_mem_eq hc hv⟩
  · rintro ⟨v, hv, rfl⟩
    rcases List.mem_flatten.1 ((h.mem_iff v).2 hv) with ⟨c, hc, hvc⟩
    exact ⟨c, hc, h.setOf_mem_eq hc hvc⟩

/-- There are as many components as classes. -/
theorem length_eq (h : Condensation adj order cs) : cs.length = (adj.classes order).ncard := by
  classical
  have hset : adj.classes order = ((cs.map fun c => {u | u ∈ c}).toFinset : Set (Set String)) := by
    ext s
    rw [Finset.mem_coe, List.mem_toFinset, h.mem_sets_iff]
  rw [hset, Set.ncard_coe_finset, List.toFinset_card_of_nodup h.nodup_sets, List.length_map]

end Condensation

/-! ## Greatest numbers -/

/-- A running maximum is bounded by what bounds its start and all numbers. -/
theorem foldl_max_le_iff (ns : List Nat) (a b : Nat) :
    ns.foldl max a ≤ b ↔ a ≤ b ∧ ∀ n ∈ ns, n ≤ b := by
  induction ns generalizing a with
  | nil => simp
  | cons n ns ih => simp [ih, and_assoc]

/-- The greatest number is bounded by what bounds all. -/
theorem greatest_le_iff (ns : List Nat) (b : Nat) : greatest ns ≤ b ↔ ∀ n ∈ ns, n ≤ b := by
  simp [greatest, foldl_max_le_iff]

/-- No number exceeds the greatest. -/
theorem le_greatest {ns : List Nat} {n : Nat} (h : n ∈ ns) : n ≤ greatest ns :=
  (greatest_le_iff ns _).1 (Nat.le_refl _) n h

/-- The greatest number of a list is one of them, unless it is zero. -/
theorem greatest_mem {ns : List Nat} (h : greatest ns ≠ 0) : greatest ns ∈ ns := by
  by_contra hmem
  have hle : greatest ns ≤ greatest ns - 1 := by
    rw [greatest_le_iff]
    intro n hn
    have hne : n ≠ greatest ns := fun heq => hmem (heq ▸ hn)
    have hn := le_greatest hn
    omega
  omega

/-- The greatest number does not depend on the order. -/
theorem greatest_perm {ms ns : List Nat} (h : ms.Perm ns) : greatest ms = greatest ns := by
  refine Nat.le_antisymm ?_ ?_
  · exact (greatest_le_iff ms _).2 fun n hn => le_greatest (h.mem_iff.1 hn)
  · exact (greatest_le_iff ns _).2 fun n hn => le_greatest (h.mem_iff.2 hn)

/-! ## Walks between components -/

/-- A walk from a node that takes a number of edges between different components. -/
inductive Crosses (adj : Adjacency) : String → Nat → Prop where
  | stop (u : String) : Crosses adj u 0
  | within {u v : String} {n : Nat} : adj.Leads u v → adj.Reaches v u → Crosses adj v n →
      Crosses adj u n
  | across {u v : String} {n : Nat} : adj.Leads u v → ¬ adj.Reaches v u → Crosses adj v n →
      Crosses adj u (n + 1)

/-- The greatest number of edges between different components on a walk from a node. -/
noncomputable def Adjacency.depth (adj : Adjacency) (v : String) : Nat :=
  sSup {n | Crosses adj v n}

/-- What a walk from a node crosses, a walk from any node of its component can cross. -/
theorem Crosses.of_reaches {adj : Adjacency} {u v : String} {n : Nat} (h : Crosses adj v n)
    (huv : adj.Reaches u v) (hvu : adj.Reaches v u) : Crosses adj u n := by
  induction huv using ReflTransGen.head_induction_on with
  | refl => exact h
  | head hab hbv ih =>
      exact .within hab (hbv.trans hvu) (ih (hvu.tail hab))

/-! ## One pass over the components -/

/-- The depth of one more component is computed from those before it. -/
theorem depths_concat (adj : Adjacency) (cs : List (List String)) (c : List String) :
    depths adj (cs ++ [c]) = depths adj cs ++ [(c, depthOf adj (depths adj cs) c)] := by
  simp [depths]

/-- Every component gets one depth, in order. -/
theorem map_fst_depths (adj : Adjacency) (cs : List (List String)) :
    (depths adj cs).map (·.1) = cs := by
  induction cs using List.reverseRecOn with
  | nil => rfl
  | append_singleton cs c ih => rw [depths_concat, List.map_append, ih]; rfl

/-- Depths that are added later do not change an earlier one. -/
theorem of_append_of_mem {ds : Depths} {v : String} (h : v ∈ (ds.map (·.1)).flatten)
    (ds' : Depths) : Depths.of (ds ++ ds') v = ds.of v := by
  have hsome : (ds.find? fun d => d.1.contains v).isSome := by
    rw [List.find?_isSome]
    simpa using h
  unfold Depths.of
  rw [List.find?_append, Option.or_of_isSome hsome]

/-- The depth that is added last is that of its component. -/
theorem of_concat_of_mem {ds : Depths} {c : List String} {v : String}
    (h : v ∉ (ds.map (·.1)).flatten) (hv : v ∈ c) (n : Nat) :
    Depths.of (ds ++ [(c, n)]) v = n := by
  have hnone : (ds.find? fun d => d.1.contains v) = none := by
    rw [List.find?_eq_none]
    simpa using h
  unfold Depths.of
  rw [List.find?_append, hnone]
  simp [hv]

/-- The candidates for a depth come from the edges that leave the component. -/
theorem mem_successors_iff {adj : Adjacency} {ds : Depths} {c : List String} {n : Nat} :
    n ∈ ((c.flatMap adj.targets).filterMap fun target =>
        if c.contains target then none else some (ds.of target + 1)) ↔
      ∃ u ∈ c, ∃ v, adj.Leads u v ∧ v ∉ c ∧ n = ds.of v + 1 := by
  simp only [List.mem_filterMap, List.mem_flatMap, Adjacency.Leads]
  constructor
  · rintro ⟨v, ⟨u, hu, huv⟩, hn⟩
    split at hn
    · cases hn
    · rename_i hv
      exact ⟨u, hu, v, huv, by simpa using hv, (Option.some.inj hn).symm⟩
  · rintro ⟨u, hu, v, huv, hv, rfl⟩
    exact ⟨v, ⟨u, hu, huv⟩, by simp [hv]⟩

/-- An edge that leaves a component makes it deeper than where it leads. -/
theorem succ_le_depthOf {adj : Adjacency} (ds : Depths) {c : List String} {u v : String}
    (hu : u ∈ c) (huv : adj.Leads u v) (hv : v ∉ c) : ds.of v + 1 ≤ depthOf adj ds c :=
  le_greatest (mem_successors_iff.2 ⟨u, hu, v, huv, hv, rfl⟩)

/-- A depth that is not zero comes from an edge that leaves the component. -/
theorem exists_of_depthOf_ne_zero {adj : Adjacency} {ds : Depths} {c : List String}
    (h : depthOf adj ds c ≠ 0) :
    ∃ u ∈ c, ∃ v, adj.Leads u v ∧ v ∉ c ∧ depthOf adj ds c = ds.of v + 1 :=
  mem_successors_iff.1 (greatest_mem h)

/-- The depth of a component is right if those of the components that it leads to are. -/
theorem isGreatest_depthOf {adj : Adjacency} {ds : Depths} {c : List String}
    (hc : IsComponent adj c)
    (hds : ∀ u ∈ c, ∀ v, adj.Leads u v → v ∉ c → IsGreatest {n | Crosses adj v n} (ds.of v))
    {v : String} (hv : v ∈ c) : IsGreatest {n | Crosses adj v n} (depthOf adj ds c) := by
  constructor
  · -- The edge that decides the depth is reached inside the component.
    by_cases hzero : depthOf adj ds c = 0
    · rw [hzero]
      exact Crosses.stop v
    · rcases exists_of_depthOf_ne_zero hzero with ⟨u, hu, w, huw, hw, hn⟩
      have hnot : ¬ adj.Reaches w u := by
        intro hwu
        exact hw ((hc.2 u hu w).2 ⟨ReflTransGen.single huw, hwu⟩)
      have hcross : Crosses adj u (depthOf adj ds c) := by
        rw [hn]
        exact .across huw hnot (hds u hu w huw hw).1
      rcases (hc.2 v hv u).1 hu with ⟨hvu, huv⟩
      exact hcross.of_reaches hvu huv
  · -- A walk stays in the component until it takes an edge that was looked at.
    intro n hn
    change Crosses adj v n at hn
    induction hn with
    | stop => exact Nat.zero_le _
    | @within u w n huw hwu _ ih =>
        exact ih ((hc.2 u hv w).2 ⟨ReflTransGen.single huw, hwu⟩)
    | @across u w n huw hwu hcross _ =>
        have hw : w ∉ c := fun hw => hwu ((hc.2 u hv w).1 hw).2
        have hle : n ≤ ds.of w := (hds u hv w huw hw).2 hcross
        exact Nat.le_trans (Nat.succ_le_succ hle) (succ_le_depthOf ds hv huw hw)

/-- The pass over components that come sinks first finds the greatest number for every node. -/
theorem isGreatest_depths {adj : Adjacency} {cs : List (List String)} (hsinks : SinksFirst adj cs)
    (hnodup : cs.flatten.Nodup) (hcs : ∀ c ∈ cs, IsComponent adj c) {v : String}
    (hv : v ∈ cs.flatten) : IsGreatest {n | Crosses adj v n} ((depths adj cs).of v) := by
  induction hsinks generalizing v with
  | nil => simp at hv
  | @snoc cs c _ hleads ih =>
      rw [List.flatten_concat, List.nodup_append] at hnodup
      have hearlier : ∀ {w}, w ∈ cs.flatten →
          IsGreatest {n | Crosses adj w n} ((depths adj cs).of w) :=
        ih hnodup.1 fun d hd => hcs d (List.mem_append_left _ hd)
      rw [List.flatten_concat, List.mem_append] at hv
      rw [depths_concat]
      rcases hv with hv | hv
      · rw [of_append_of_mem (by rwa [map_fst_depths])]
        exact hearlier hv
      · have hnew : v ∉ cs.flatten := fun hold => hnodup.2.2 v hold v hv rfl
        rw [of_concat_of_mem (by rwa [map_fst_depths]) hv]
        refine isGreatest_depthOf (hcs c (by simp)) ?_ hv
        intro u hu w huw hw
        exact hearlier ((hleads u hu w huw).resolve_left hw)

/-- The depth of an accessible node is told by its walks. -/
theorem of_depths_components {order : List String} {adj : Adjacency} {v : String}
    (hv : adj.Accessible order v) : (depths adj (components order adj)).of v = adj.depth v := by
  have h := condensation_components order adj
  have hgreatest := isGreatest_depths h.sinks_first h.nodup h.component ((h.mem_iff v).2 hv)
  exact hgreatest.csSup_eq.symm

end Graph
end CrossAudit
