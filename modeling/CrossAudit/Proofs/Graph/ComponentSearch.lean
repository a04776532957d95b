import CrossAudit.Graph.Component
import CrossAudit.Proofs.Graph.Walk
import Mathlib.Data.List.Nodup

/-!
# The components of a graph

The numbering search is followed step by step with one invariant.  The nodes whose component is
open are numbered in the order in which they were entered; a visit reaches every open node with a
number from its own on, and every open node reaches some visit around it.  The low number of a
visit is the number of an open node that it reaches, and it bounds the numbers of the open targets
that were seen from inside the visit.  So when a visit ends whose low number is its own number, the
open nodes from it on are a component, and all that they lead to is in it or already closed.

Main results:

- Theorem `Scanning.close`: a component that is closed is one, and comes after all it leads to.
- Theorem `Scanning.run`: a search to its end keeps the invariant.
- Theorem `components_correct`: the components are a partition of the accessible nodes into classes
  of nodes that reach each other, sinks first.
-/

namespace CrossAudit
namespace Graph

open Relation

/-! ## Components and their order -/

/-- A set of nodes that reach each other, and all of them. -/
def IsComponent (adj : Adjacency) (c : List String) : Prop :=
  c ≠ [] ∧ ∀ u ∈ c, ∀ v, v ∈ c ↔ adj.Reaches u v ∧ adj.Reaches v u

/-- Each list of nodes leads to itself and to the lists before it only. -/
inductive SinksFirst (adj : Adjacency) : List (List String) → Prop where
  | nil : SinksFirst adj []
  | snoc {cs : List (List String)} {c : List String} : SinksFirst adj cs →
      (∀ u ∈ c, ∀ v, adj.Leads u v → v ∈ c ∨ v ∈ cs.flatten) → SinksFirst adj (cs ++ [c])

namespace SinksFirst

variable {adj : Adjacency} {cs : List (List String)} {u v : String}

/-- Nothing leads out of the lists. -/
theorem mem_of_leads (h : SinksFirst adj cs) (hu : u ∈ cs.flatten) (huv : adj.Leads u v) :
    v ∈ cs.flatten := by
  induction h with
  | nil => simp at hu
  | snoc _ hc ih =>
      rw [List.flatten_concat, List.mem_append] at hu ⊢
      rcases hu with hu | hu
      · exact Or.inl (ih hu)
      · exact (hc u hu v huv).symm

theorem mem_of_reaches (h : SinksFirst adj cs) (hu : u ∈ cs.flatten) (huv : adj.Reaches u v) :
    v ∈ cs.flatten := by
  induction huv with
  | refl => exact hu
  | tail _ hvw ih => exact h.mem_of_leads ih hvw

/-- If no node is listed twice, edges lead to the same place or to an earlier one. -/
theorem le_of_leads (h : SinksFirst adj cs) (hnodup : cs.flatten.Nodup) {i j : Nat}
    {c d : List String} (hi : cs[i]? = some c) (hj : cs[j]? = some d) (hu : u ∈ c) (hv : v ∈ d)
    (huv : adj.Leads u v) : j ≤ i := by
  induction h with
  | nil => simp at hi
  | @snoc cs last hcs hlast ih =>
      rw [List.flatten_concat, List.nodup_append] at hnodup
      rcases List.getElem?_eq_some_iff.1 hj with ⟨hjlt, -⟩
      rw [List.length_append, List.length_singleton] at hjlt
      by_cases hin : i < cs.length
      · rw [List.getElem?_append_left hin] at hi
        -- The source is in an earlier list, so its target cannot be in the last one.
        have hmem : v ∈ cs.flatten :=
          hcs.mem_of_leads (List.mem_flatten.2 ⟨c, List.mem_of_getElem? hi, hu⟩) huv
        have hjn : j < cs.length := by
          by_contra hge
          have hlen : j = cs.length := by omega
          rw [hlen, List.getElem?_concat_length, Option.some.injEq] at hj
          subst hj
          exact hnodup.2.2 v hmem v hv rfl
        rw [List.getElem?_append_left hjn] at hj
        exact ih hnodup.1 hi hj
      · omega

end SinksFirst

/-! ## The invariant of the search -/

/-- The nodes that were entered. -/
def Scan.entered (s : Scan) : List String :=
  s.opened.map (·.1) ++ s.components.flatten

/-- An edge that a visit still has to look at. -/
def Pending (visits : List Visit) (u v : String) : Prop :=
  ∃ p ∈ visits, p.node = u ∧ v ∈ p.rest

/-- A visit that lies at or inside every visit around a number. -/
def Covers (visits : List Visit) (q : Visit) (n : Nat) : Prop :=
  ∀ p ∈ visits, p.index ≤ n → p.index ≤ q.index

/-- Why an edge out of an open node needs no attention: it is still to be looked at, it leads to a
closed component, or a visit inside all those around the node knows of an open number that is as
small. -/
def Accounted (s : Scan) (visits : List Visit) (e : String × Nat) (v : String) : Prop :=
  Pending visits e.1 v ∨ v ∈ s.components.flatten ∨
    ∃ m q, (v, m) ∈ s.opened ∧ q ∈ visits ∧ q.low ≤ m ∧ Covers visits q e.2

/-- What holds at every moment of a search. -/
structure Scanning (adj : Adjacency) (order : List String) (s : Scan) (visits : List Visit) :
    Prop where
  nodup : s.entered.Nodup
  not_fresh : ∀ v ∈ s.entered, v ∉ s.fresh
  cover : ∀ v ∈ Adjacency.mentioned order adj, v ∈ s.fresh ∨ v ∈ s.entered
  accessible : ∀ v ∈ s.entered, adj.Accessible order v
  opened_sorted : s.opened.Pairwise fun a b => b.2 < a.2
  opened_lt : ∀ e ∈ s.opened, e.2 < s.count
  visits_sorted : visits.Pairwise fun p q => q.index < p.index
  visits_opened : ∀ p ∈ visits, (p.node, p.index) ∈ s.opened
  rest_leads : ∀ p ∈ visits, ∀ v ∈ p.rest, adj.Leads p.node v
  low_le : ∀ p ∈ visits, p.low ≤ p.index
  low_reached : ∀ p ∈ visits, ∃ y, (y, p.low) ∈ s.opened ∧ adj.Reaches p.node y
  forth : ∀ p ∈ visits, ∀ e ∈ s.opened, p.index ≤ e.2 → adj.Reaches p.node e.1
  back : ∀ e ∈ s.opened, ∃ p ∈ visits, p.index ≤ e.2 ∧ adj.Reaches e.1 p.node
  accounted : ∀ e ∈ s.opened, ∀ v, adj.Leads e.1 v → Accounted s visits e v
  sinks_first : SinksFirst adj s.components
  components : ∀ c ∈ s.components, IsComponent adj c

namespace Scanning

variable {adj : Adjacency} {order : List String} {s : Scan} {visits above below : List Visit}
  {p q : Visit} {u v next : String} {rest : List String}

/-- Before anything is entered. -/
theorem initial (adj : Adjacency) (order : List String) :
    Scanning adj order { fresh := Adjacency.mentioned order adj } [] where
  nodup := List.nodup_nil
  not_fresh := by simp [Scan.entered]
  cover := fun v hv => Or.inl hv
  accessible := by simp [Scan.entered]
  opened_sorted := List.Pairwise.nil
  opened_lt := by simp
  visits_sorted := List.Pairwise.nil
  visits_opened := by simp
  rest_leads := by simp
  low_le := by simp
  low_reached := by simp
  forth := by simp
  back := by simp
  accounted := by simp
  sinks_first := SinksFirst.nil
  components := by simp

/-- An open node has one number. -/
theorem number_unique (h : Scanning adj order s visits) {m n : Nat} (hm : (v, m) ∈ s.opened)
    (hn : (v, n) ∈ s.opened) : m = n := by
  have hnames : (s.opened.map (·.1)).Nodup := (List.nodup_append.1 h.nodup).1
  have hpair := List.inj_on_of_nodup_map hnames hm hn rfl
  exact congrArg Prod.snd hpair

/-- An open node is in no closed component. -/
theorem not_mem_components (h : Scanning adj order s visits) {e : String × Nat}
    (he : e ∈ s.opened) : e.1 ∉ s.components.flatten := by
  intro hmem
  exact (List.nodup_append.1 h.nodup).2.2 e.1 (List.mem_map_of_mem he) e.1 hmem rfl

/-- The innermost visit has the greatest number. -/
theorem index_le_head (h : Scanning adj order s (p :: below)) (hq : q ∈ p :: below) :
    q.index ≤ p.index := by
  rcases List.mem_cons.1 hq with rfl | hq
  · exact Nat.le_refl _
  · exact Nat.le_of_lt ((List.pairwise_cons.1 h.visits_sorted).1 q hq)

/-- The innermost visit is the only one with a number from its own on. -/
theorem eq_head_of_le (h : Scanning adj order s (p :: below)) (hq : q ∈ p :: below)
    (hle : p.index ≤ q.index) : q = p := by
  rcases List.mem_cons.1 hq with rfl | hq
  · rfl
  · have hlt := (List.pairwise_cons.1 h.visits_sorted).1 q hq
    omega

/-! ### Looking at targets -/

/-- Changes one visit: its number of reach may sink to that of an open node that it reaches, and it
may pass over targets that are accounted for. -/
theorem replace (above : List Visit) {p' : Visit}
    (h : Scanning adj order s (above ++ p :: below))
    (hnode : p'.node = p.node) (hindex : p'.index = p.index) (hlow : p'.low ≤ p.low)
    (hreached : ∃ y, (y, p'.low) ∈ s.opened ∧ adj.Reaches p.node y)
    (hrest : p'.rest ⊆ p.rest)
    (hpassed : ∀ v ∈ p.rest, v ∈ p'.rest ∨
      Accounted s (above ++ p' :: below) (p.node, p.index) v) :
    Scanning adj order s (above ++ p' :: below) := by
  have hp : p ∈ above ++ p :: below := by simp
  have hp' : p' ∈ above ++ p' :: below := by simp
  -- Every new visit stems from an old one with the same node and number, and the other way round.
  have hold : ∀ q ∈ above ++ p' :: below, q = p' ∨ q ∈ above ++ p :: below := by
    intro q hq
    simp only [List.mem_append, List.mem_cons] at hq ⊢
    tauto
  have hnew : ∀ q ∈ above ++ p :: below, q = p ∨ q ∈ above ++ p' :: below := by
    intro q hq
    simp only [List.mem_append, List.mem_cons] at hq ⊢
    tauto
  have hcovers : ∀ q n, Covers (above ++ p :: below) q n → Covers (above ++ p' :: below) q n := by
    intro q n hq r hr hle
    rcases hold r hr with rfl | hr
    · rw [hindex] at hle ⊢
      exact hq p hp hle
    · exact hq r hr hle
  exact { h with
    visits_sorted := by
      have hsorted := h.visits_sorted
      rw [List.pairwise_append, List.pairwise_cons] at hsorted ⊢
      refine ⟨hsorted.1, ⟨?_, hsorted.2.1.2⟩, ?_⟩
      · rw [hindex]
        exact hsorted.2.1.1
      · intro a ha b hb
        rcases List.mem_cons.1 hb with rfl | hb
        · rw [hindex]
          exact hsorted.2.2 a ha p List.mem_cons_self
        · exact hsorted.2.2 a ha b (List.mem_cons_of_mem _ hb)
    visits_opened := by
      intro q hq
      rcases hold q hq with rfl | hq
      · rw [hnode, hindex]
        exact h.visits_opened p hp
      · exact h.visits_opened q hq
    rest_leads := by
      intro q hq v hv
      rcases hold q hq with rfl | hq
      · rw [hnode]
        exact h.rest_leads p hp v (hrest hv)
      · exact h.rest_leads q hq v hv
    low_le := by
      intro q hq
      rcases hold q hq with rfl | hq
      · rw [hindex]
        exact hlow.trans (h.low_le p hp)
      · exact h.low_le q hq
    low_reached := by
      intro q hq
      rcases hold q hq with rfl | hq
      · rw [hnode]
        exact hreached
      · exact h.low_reached q hq
    forth := by
      intro q hq e he hle
      rcases hold q hq with rfl | hq
      · rw [hnode]
        exact h.forth p hp e he (hindex ▸ hle)
      · exact h.forth q hq e he hle
    back := by
      intro e he
      rcases h.back e he with ⟨q, hq, hle, hreach⟩
      rcases hnew q hq with rfl | hq
      · exact ⟨p', hp', hindex ▸ hle, hnode ▸ hreach⟩
      · exact ⟨q, hq, hle, hreach⟩
    accounted := by
      intro e he v hev
      rcases h.accounted e he v hev with ⟨q, hq, hqe, hv⟩ | hclosed | ⟨m, q, hm, hq, hqm, hcov⟩
      · rcases hnew q hq with rfl | hq
        · have heq : e = (q.node, q.index) :=
            Prod.ext hqe.symm (h.number_unique he (hqe ▸ h.visits_opened q hp))
          rcases hpassed v hv with hv | hv
          · exact Or.inl ⟨p', hp', hnode.trans hqe, hv⟩
          · rw [heq]
            exact hv
        · exact Or.inl ⟨q, hq, hqe, hv⟩
      · exact Or.inr (Or.inl hclosed)
      · refine Or.inr (Or.inr ?_)
        rcases hnew q hq with rfl | hq
        · refine ⟨m, p', hm, hp', hlow.trans hqm, ?_⟩
          intro r hr hle
          rw [hindex]
          exact hcovers q e.2 hcov r hr hle
        · exact ⟨m, q, hm, hq, hqm, hcovers q e.2 hcov⟩ }

/-- Looks at a target whose component is closed. -/
theorem skip {node : String} {index low : Nat}
    (h : Scanning adj order s (⟨node, index, low, next :: rest⟩ :: below))
    (hclosed : next ∈ s.components.flatten) :
    Scanning adj order s (⟨node, index, low, rest⟩ :: below) := by
  refine replace [] h rfl rfl (Nat.le_refl _) ?_ (List.subset_cons_self _ _) ?_
  · exact h.low_reached ⟨node, index, low, next :: rest⟩ List.mem_cons_self
  · intro v hv
    rcases List.mem_cons.1 hv with rfl | hv
    · exact Or.inr (Or.inr (Or.inl hclosed))
    · exact Or.inl hv

/-- Looks at a target whose component is open. -/
theorem reach {node : String} {index low number : Nat}
    (h : Scanning adj order s (⟨node, index, low, next :: rest⟩ :: below))
    (hopened : (next, number) ∈ s.opened) :
    Scanning adj order s (⟨node, index, min low number, rest⟩ :: below) := by
  have hleads : adj.Leads node next := h.rest_leads _ List.mem_cons_self next List.mem_cons_self
  refine replace [] h rfl rfl (Nat.min_le_left _ _) ?_ (List.subset_cons_self _ _) ?_
  · rcases Nat.le_total low number with hle | hle
    · rw [Nat.min_eq_left hle]
      exact h.low_reached ⟨node, index, low, next :: rest⟩ List.mem_cons_self
    · rw [Nat.min_eq_right hle]
      exact ⟨next, hopened, ReflTransGen.single hleads⟩
  · intro v hv
    rcases List.mem_cons.1 hv with rfl | hv
    · refine Or.inr (Or.inr (Or.inr ⟨number, _, hopened, List.mem_cons_self, ?_, ?_⟩))
      · exact Nat.min_le_right _ _
      · intro q hq _
        rcases List.mem_cons.1 hq with rfl | hq
        · exact Nat.le_refl _
        · exact h.index_le_head (List.mem_cons_of_mem _ hq)
    · exact Or.inl hv

/-! ### Entering nodes -/

/-- Enters a fresh node that every visit reaches. -/
theorem push (h : Scanning adj order s visits) (hfresh : next ∈ s.fresh)
    (haccessible : adj.Accessible order next)
    (hreaches : ∀ p ∈ visits, adj.Reaches p.node next) :
    Scanning adj order (s.enter next) (Visit.start s adj next :: visits) := by
  have hentered : (s.enter next).entered = next :: s.entered := rfl
  have hindex : ∀ p ∈ visits, p.index < s.count := fun p hp =>
    h.opened_lt _ (h.visits_opened p hp)
  exact
    { nodup := by
        rw [hentered, List.nodup_cons]
        exact ⟨fun hmem => h.not_fresh next hmem hfresh, h.nodup⟩
      not_fresh := by
        intro v hv hmem
        have hv' : v ∈ s.fresh ∧ v ≠ next := by simpa [Scan.enter, without] using hmem
        rw [hentered] at hv
        rcases List.mem_cons.1 hv with rfl | hv
        · exact hv'.2 rfl
        · exact h.not_fresh v hv hv'.1
      cover := by
        intro v hv
        rw [hentered]
        by_cases heq : v = next
        · exact Or.inr (heq ▸ List.mem_cons_self)
        · rcases h.cover v hv with hv | hv
          · exact Or.inl (List.mem_filter.2 ⟨hv, by simpa using heq⟩)
          · exact Or.inr (List.mem_cons_of_mem _ hv)
      accessible := by
        intro v hv
        rw [hentered] at hv
        rcases List.mem_cons.1 hv with rfl | hv
        · exact haccessible
        · exact h.accessible v hv
      opened_sorted := List.pairwise_cons.2 ⟨h.opened_lt, h.opened_sorted⟩
      opened_lt := by
        intro e he
        rcases List.mem_cons.1 he with rfl | he
        · exact Nat.lt_succ_self _
        · exact Nat.lt_succ_of_lt (h.opened_lt e he)
      visits_sorted := List.pairwise_cons.2 ⟨hindex, h.visits_sorted⟩
      visits_opened := by
        intro p hp
        rcases List.mem_cons.1 hp with rfl | hp
        · exact List.mem_cons_self
        · exact List.mem_cons_of_mem _ (h.visits_opened p hp)
      rest_leads := by
        intro p hp v hv
        rcases List.mem_cons.1 hp with rfl | hp
        · exact hv
        · exact h.rest_leads p hp v hv
      low_le := by
        intro p hp
        rcases List.mem_cons.1 hp with rfl | hp
        · exact Nat.le_refl _
        · exact h.low_le p hp
      low_reached := by
        intro p hp
        rcases List.mem_cons.1 hp with rfl | hp
        · exact ⟨next, List.mem_cons_self, ReflTransGen.refl⟩
        · rcases h.low_reached p hp with ⟨y, hy, hreach⟩
          exact ⟨y, List.mem_cons_of_mem _ hy, hreach⟩
      forth := by
        intro p hp e he hle
        rcases List.mem_cons.1 hp with rfl | hp
        · rcases List.mem_cons.1 he with rfl | he
          · exact ReflTransGen.refl
          · exact absurd (h.opened_lt e he) (Nat.not_lt.2 hle)
        · rcases List.mem_cons.1 he with rfl | he
          · exact hreaches p hp
          · exact h.forth p hp e he hle
      back := by
        intro e he
        rcases List.mem_cons.1 he with rfl | he
        · exact ⟨_, List.mem_cons_self, Nat.le_refl _, ReflTransGen.refl⟩
        · rcases h.back e he with ⟨p, hp, hle, hreach⟩
          exact ⟨p, List.mem_cons_of_mem _ hp, hle, hreach⟩
      accounted := by
        intro e he v hev
        rcases List.mem_cons.1 he with rfl | he
        · exact Or.inl ⟨_, List.mem_cons_self, rfl, hev⟩
        · rcases h.accounted e he v hev with ⟨q, hq, hqe, hv⟩ | hclosed | ⟨m, q, hm, hq, hqm, hcov⟩
          · exact Or.inl ⟨q, List.mem_cons_of_mem _ hq, hqe, hv⟩
          · exact Or.inr (Or.inl hclosed)
          · refine Or.inr (Or.inr ⟨m, q, List.mem_cons_of_mem _ hm, List.mem_cons_of_mem _ hq,
              hqm, ?_⟩)
            intro r hr hle
            rcases List.mem_cons.1 hr with rfl | hr
            · exact absurd (h.opened_lt e he) (Nat.not_lt.2 hle)
            · exact hcov r hr hle
      sinks_first := h.sinks_first
      components := h.components }

/-- Enters a fresh target. -/
theorem enter {node : String} {index low : Nat}
    (h : Scanning adj order s (⟨node, index, low, next :: rest⟩ :: below))
    (hfresh : next ∈ s.fresh) :
    Scanning adj order (s.enter next)
      (Visit.start s adj next :: ⟨node, index, low, rest⟩ :: below) := by
  have hleads : adj.Leads node next := h.rest_leads _ List.mem_cons_self next List.mem_cons_self
  have hopened : (node, index) ∈ s.opened := h.visits_opened _ List.mem_cons_self
  have hnode : node ∈ s.entered := List.mem_append_left _ (List.mem_map_of_mem hopened)
  have hpush := h.push hfresh ((h.accessible node hnode).step hleads)
    fun p hp => (h.forth p hp _ hopened (h.index_le_head hp)).tail hleads
  refine replace [Visit.start s adj next] hpush rfl rfl (Nat.le_refl _) ?_
    (List.subset_cons_self _ _) ?_
  · exact hpush.low_reached ⟨node, index, low, next :: rest⟩ (by simp)
  · intro v hv
    rcases List.mem_cons.1 hv with rfl | hv
    · -- The new visit itself knows of the number of its node.
      refine Or.inr (Or.inr (Or.inr ⟨s.count, _, List.mem_cons_self, List.mem_cons_self,
        Nat.le_refl _, ?_⟩))
      intro q _ hle
      exact hle.trans (Nat.le_of_lt (h.opened_lt _ hopened))
    · exact Or.inl hv

/-- Enters a fresh start node. -/
theorem start (h : Scanning adj order s []) (hfresh : next ∈ s.fresh) (horder : next ∈ order) :
    Scanning adj order (s.enter next) [Visit.start s adj next] :=
  h.push hfresh (Adjacency.Accessible.of_mem horder) (by simp)

/-! ### Leaving nodes -/

/-- Leaves a node that reaches a smaller open number, which the visit around it knows of. -/
theorem pop (h : Scanning adj order s (q :: p :: below)) (hrest : q.rest = [])
    (hopen : q.low < q.index) (hlow : p.low ≤ q.low) : Scanning adj order s (p :: below) := by
  have hsorted := List.pairwise_cons.1 h.visits_sorted
  exact { h with
    visits_sorted := hsorted.2
    visits_opened := fun r hr => h.visits_opened r (List.mem_cons_of_mem _ hr)
    rest_leads := fun r hr => h.rest_leads r (List.mem_cons_of_mem _ hr)
    low_le := fun r hr => h.low_le r (List.mem_cons_of_mem _ hr)
    low_reached := fun r hr => h.low_reached r (List.mem_cons_of_mem _ hr)
    forth := fun r hr => h.forth r (List.mem_cons_of_mem _ hr)
    back := by
      intro e he
      rcases h.back e he with ⟨r, hr, hle, hreach⟩
      rcases List.mem_cons.1 hr with rfl | hr
      · -- The node reaches the one that is left, hence a smaller open number and a visit around it.
        rcases h.low_reached r List.mem_cons_self with ⟨y, hy, hry⟩
        rcases h.back _ hy with ⟨t, ht, htle, hyt⟩
        have htr : t ≠ r := by
          rintro rfl
          exact absurd hopen (Nat.not_lt.2 htle)
        refine ⟨t, (List.mem_cons.1 ht).resolve_left htr, ?_, (hreach.trans hry).trans hyt⟩
        exact (htle.trans (Nat.le_of_lt hopen)).trans hle
      · exact ⟨r, hr, hle, hreach⟩
    accounted := by
      intro e he v hev
      rcases h.accounted e he v hev with ⟨r, hr, hre, hv⟩ | hclosed | ⟨m, r, hm, hr, hrm, hcov⟩
      · rcases List.mem_cons.1 hr with rfl | hr
        · rw [hrest] at hv
          exact absurd hv List.not_mem_nil
        · exact Or.inl ⟨r, hr, hre, hv⟩
      · exact Or.inr (Or.inl hclosed)
      · refine Or.inr (Or.inr ?_)
        rcases List.mem_cons.1 hr with rfl | hr
        · refine ⟨m, p, hm, List.mem_cons_self, hlow.trans hrm, ?_⟩
          intro t ht _
          rcases List.mem_cons.1 ht with rfl | ht
          · exact Nat.le_refl _
          · exact Nat.le_of_lt ((List.pairwise_cons.1 hsorted.2).1 t ht)
        · exact ⟨m, r, hm, hr, hrm, fun t ht => hcov t (List.mem_cons_of_mem _ ht)⟩ }

/-! ### Closing components -/

/-- An edge out of the open nodes from a finished visit on leads to one of them or to a closed
component, if the visit reaches no smaller number. -/
theorem mem_of_leads (h : Scanning adj order s (q :: below)) (hrest : q.rest = [])
    (hlow : q.low = q.index) {n : Nat} (hu : (u, n) ∈ s.opened) (hn : q.index ≤ n)
    (huv : adj.Leads u v) :
    v ∈ s.components.flatten ∨ ∃ m, (v, m) ∈ s.opened ∧ q.index ≤ m := by
  rcases h.accounted (u, n) hu v huv with ⟨r, hr, hru, hv⟩ | hclosed | ⟨m, r, hm, hr, hrm, hcov⟩
  · have hopened : (u, r.index) ∈ s.opened := by
      have hmem := h.visits_opened r hr
      rwa [hru] at hmem
    have hindex : q.index ≤ r.index := by
      rw [h.number_unique hopened hu]
      exact hn
    rw [h.eq_head_of_le hr hindex, hrest] at hv
    exact absurd hv List.not_mem_nil
  · exact Or.inl hclosed
  · have hrq : r = q := h.eq_head_of_le hr (hcov q List.mem_cons_self hn)
    rw [hrq, hlow] at hrm
    exact Or.inr ⟨m, hm, hrm⟩

/-- So does every walk. -/
theorem mem_of_reaches (h : Scanning adj order s (q :: below)) (hrest : q.rest = [])
    (hlow : q.low = q.index) {n : Nat} (hu : (u, n) ∈ s.opened) (hn : q.index ≤ n)
    (huv : adj.Reaches u v) :
    v ∈ s.components.flatten ∨ ∃ m, (v, m) ∈ s.opened ∧ q.index ≤ m := by
  induction huv with
  | refl => exact Or.inr ⟨n, hu, hn⟩
  | tail _ hvw ih =>
      rcases ih with hclosed | ⟨m, hm, hle⟩
      · exact Or.inl (h.sinks_first.mem_of_leads hclosed hvw)
      · exact h.mem_of_leads hrest hlow hm hle hvw

/-- The open nodes from a finished visit on reach its node, if it reaches no smaller number. -/
theorem reaches_head (h : Scanning adj order s (q :: below)) (hrest : q.rest = [])
    (hlow : q.low = q.index) {n : Nat} (hu : (u, n) ∈ s.opened) (hn : q.index ≤ n) :
    adj.Reaches u q.node := by
  rcases h.back (u, n) hu with ⟨r, hr, _, hreach⟩
  have hopened := h.visits_opened r hr
  rcases h.mem_of_reaches hrest hlow hu hn hreach with hclosed | ⟨m, hm, hle⟩
  · exact absurd hclosed (h.not_mem_components hopened)
  · rw [h.number_unique hm hopened] at hle
    rwa [h.eq_head_of_le hr hle] at hreach

/-- The open nodes from a finished visit on are a component, if it reaches no smaller number. -/
theorem isComponent (h : Scanning adj order s (q :: below)) (hrest : q.rest = [])
    (hlow : q.low = q.index) {c : List String}
    (hc : ∀ v, v ∈ c ↔ ∃ m, (v, m) ∈ s.opened ∧ q.index ≤ m) : IsComponent adj c := by
  have hq : q ∈ q :: below := List.mem_cons_self
  refine ⟨?_, ?_⟩
  · exact List.ne_nil_of_mem ((hc q.node).2 ⟨q.index, h.visits_opened q hq, Nat.le_refl _⟩)
  · intro u hu v
    rcases (hc u).1 hu with ⟨n, hun, hn⟩
    constructor
    · intro hv
      rcases (hc v).1 hv with ⟨m, hvm, hm⟩
      have hforth := h.forth q hq
      exact ⟨(h.reaches_head hrest hlow hun hn).trans (hforth (v, m) hvm hm),
        (h.reaches_head hrest hlow hvm hm).trans (hforth (u, n) hun hn)⟩
    · rintro ⟨huv, hvu⟩
      rcases h.mem_of_reaches hrest hlow hun hn huv with hclosed | hopen
      · exact absurd (h.sinks_first.mem_of_reaches hclosed hvu) (h.not_mem_components hun)
      · exact (hc v).2 hopen

end Scanning

/-- The open nodes fall into those after the node of a visit, that node, and those before it. -/
structure Split (s : Scan) (q : Visit) (inner outer : List (String × Nat)) : Prop where
  opened_eq : s.opened = inner ++ (q.node, q.index) :: outer
  not_mem : q.node ∉ inner.map (·.1)
  inner_gt : ∀ e ∈ inner, q.index < e.2
  outer_lt : ∀ e ∈ outer, e.2 < q.index

/-- The open nodes are split at each visit that goes on. -/
theorem Scanning.exists_split {adj : Adjacency} {order : List String} {s : Scan}
    {visits : List Visit} {q : Visit} (h : Scanning adj order s visits) (hq : q ∈ visits) :
    ∃ inner outer, Split s q inner outer := by
  rcases List.append_of_mem (h.visits_opened q hq) with ⟨inner, outer, hsplit⟩
  have hnames : (s.opened.map (·.1)).Nodup := (List.nodup_append.1 h.nodup).1
  have hsorted := h.opened_sorted
  rw [hsplit, List.map_append, List.map_cons, List.nodup_append] at hnames
  rw [hsplit, List.pairwise_append, List.pairwise_cons] at hsorted
  refine ⟨inner, outer, hsplit, ?_, ?_, hsorted.2.1.1⟩
  · intro hmem
    exact hnames.2.2 q.node hmem q.node List.mem_cons_self rfl
  · intro e he
    exact hsorted.2.2 e he _ List.mem_cons_self

namespace Split

variable {s : Scan} {q : Visit} {inner outer : List (String × Nat)}

/-- The component that is closed: the open nodes from the visit on. -/
theorem mem_component_iff (h : Split s q inner outer) (v : String) :
    v ∈ inner.map (·.1) ++ [q.node] ↔ ∃ m, (v, m) ∈ s.opened ∧ q.index ≤ m := by
  rw [h.opened_eq]
  constructor
  · intro hv
    rcases List.mem_append.1 hv with hv | hv
    · rcases List.mem_map.1 hv with ⟨e, he, rfl⟩
      exact ⟨e.2, List.mem_append_left _ he, Nat.le_of_lt (h.inner_gt e he)⟩
    · rw [List.mem_singleton] at hv
      exact ⟨q.index, by simp [hv], Nat.le_refl _⟩
  · rintro ⟨m, hm, hle⟩
    rcases List.mem_append.1 hm with hm | hm
    · exact List.mem_append_left _ (List.mem_map_of_mem hm)
    · rcases List.mem_cons.1 hm with heq | hm
      · rw [(Prod.mk.inj heq).1]
        simp
      · exact absurd (h.outer_lt _ hm) (Nat.not_lt.2 hle)

/-- What stays open are the nodes with smaller numbers. -/
theorem mem_outer_iff (h : Split s q inner outer) (e : String × Nat) :
    e ∈ outer ↔ e ∈ s.opened ∧ e.2 < q.index := by
  rw [h.opened_eq]
  constructor
  · intro he
    exact ⟨List.mem_append_right _ (List.mem_cons_of_mem _ he), h.outer_lt e he⟩
  · rintro ⟨he, hlt⟩
    rcases List.mem_append.1 he with he | he
    · exact absurd (h.inner_gt e he) (Nat.not_lt.2 (Nat.le_of_lt hlt))
    · rcases List.mem_cons.1 he with rfl | he
      · exact absurd hlt (Nat.lt_irrefl _)
      · exact he

/-- Closing the component of a visit moves the open nodes from it on. -/
theorem close_eq (h : Split s q inner outer) :
    s.close q.node = { s with
      opened := outer
      components := s.components ++ [inner.map (·.1) ++ [q.node]] } := by
  have hpass : ∀ e ∈ inner, (e.1 != q.node) = true := by
    intro e he
    rw [bne_iff_ne]
    intro heq
    exact h.not_mem (heq ▸ List.mem_map_of_mem he)
  have hdrop : (s.opened.dropWhile (·.1 != q.node)).tail = outer := by
    rw [h.opened_eq, List.dropWhile_append_of_pos hpass]
    simp
  have htake : (s.opened.map (·.1)).takeWhile (· != q.node) = inner.map (·.1) := by
    rw [h.opened_eq, List.map_append, List.takeWhile_append_of_pos (by simpa using hpass)]
    simp
  simp only [Scan.close, hdrop, htake]

/-- Closing a component enters no node and loses none. -/
theorem entered_close_perm (h : Split s q inner outer) : (s.close q.node).entered.Perm s.entered := by
  have hnames : s.opened.map (·.1) = (inner.map (·.1) ++ [q.node]) ++ outer.map (·.1) := by
    rw [h.opened_eq]
    simp
  rw [h.close_eq, Scan.entered, Scan.entered, hnames, List.flatten_concat, ← List.append_assoc,
    List.append_assoc (inner.map (·.1) ++ [q.node])]
  exact List.perm_append_comm

end Split

namespace Scanning

variable {adj : Adjacency} {order : List String} {s : Scan} {visits below : List Visit}
  {p q : Visit} {next : String}

/-- Closes the component of a node that reaches no smaller number. -/
theorem close (h : Scanning adj order s (q :: below)) (hrest : q.rest = [])
    (hlow : q.low = q.index) : Scanning adj order (s.close q.node) below := by
  rcases h.exists_split List.mem_cons_self with ⟨inner, outer, hsplit⟩
  have hsorted := List.pairwise_cons.1 h.visits_sorted
  have hbelow : ∀ r ∈ below, r ∈ q :: below := fun r hr => List.mem_cons_of_mem _ hr
  have houter : ∀ e ∈ outer, e ∈ s.opened := fun e he => ((hsplit.mem_outer_iff e).1 he).1
  have hmem := hsplit.mem_component_iff
  have hperm := hsplit.entered_close_perm
  rw [hsplit.close_eq] at hperm ⊢
  exact
    { nodup := hperm.nodup_iff.2 h.nodup
      not_fresh := fun v hv => h.not_fresh v (hperm.mem_iff.1 hv)
      cover := fun v hv => (h.cover v hv).imp_right hperm.mem_iff.2
      accessible := fun v hv => h.accessible v (hperm.mem_iff.1 hv)
      opened_sorted := by
        have hpair := h.opened_sorted
        rw [hsplit.opened_eq, List.pairwise_append, List.pairwise_cons] at hpair
        exact hpair.2.1.2
      opened_lt := fun e he => h.opened_lt e (houter e he)
      visits_sorted := hsorted.2
      visits_opened := fun r hr =>
        (hsplit.mem_outer_iff _).2 ⟨h.visits_opened r (hbelow r hr), hsorted.1 r hr⟩
      rest_leads := fun r hr => h.rest_leads r (hbelow r hr)
      low_le := fun r hr => h.low_le r (hbelow r hr)
      low_reached := by
        intro r hr
        rcases h.low_reached r (hbelow r hr) with ⟨y, hy, hreach⟩
        refine ⟨y, (hsplit.mem_outer_iff _).2 ⟨hy, ?_⟩, hreach⟩
        exact Nat.lt_of_le_of_lt (h.low_le r (hbelow r hr)) (hsorted.1 r hr)
      forth := fun r hr e he => h.forth r (hbelow r hr) e (houter e he)
      back := by
        intro e he
        rcases h.back e (houter e he) with ⟨r, hr, hle, hreach⟩
        rcases List.mem_cons.1 hr with rfl | hr
        · exact absurd (hsplit.outer_lt e he) (Nat.not_lt.2 hle)
        · exact ⟨r, hr, hle, hreach⟩
      accounted := by
        intro e he v hev
        rcases h.accounted e (houter e he) v hev with
          ⟨r, hr, hre, hv⟩ | hclosed | ⟨m, r, hm, hr, hrm, hcov⟩
        · rcases List.mem_cons.1 hr with rfl | hr
          · rw [hrest] at hv
            exact absurd hv List.not_mem_nil
          · exact Or.inl ⟨r, hr, hre, hv⟩
        · refine Or.inr (Or.inl ?_)
          rw [List.flatten_concat]
          exact List.mem_append_left _ hclosed
        · by_cases hin : q.index ≤ m
          · refine Or.inr (Or.inl ?_)
            rw [List.flatten_concat]
            exact List.mem_append_right _ ((hmem v).2 ⟨m, hm, hin⟩)
          · rcases List.mem_cons.1 hr with rfl | hr
            · exact absurd (hlow ▸ hrm) hin
            · have hm' : (v, m) ∈ outer := (hsplit.mem_outer_iff _).2 ⟨hm, Nat.lt_of_not_le hin⟩
              exact Or.inr (Or.inr ⟨m, r, hm', hr, hrm, fun t ht => hcov t (hbelow t ht)⟩)
      sinks_first := by
        refine SinksFirst.snoc h.sinks_first ?_
        intro u hu v huv
        rcases (hmem u).1 hu with ⟨n, hun, hn⟩
        rcases h.mem_of_leads hrest hlow hun hn huv with hclosed | hopen
        · exact Or.inr hclosed
        · exact Or.inl ((hmem v).2 hopen)
      components := by
        intro c hc
        rcases List.mem_append.1 hc with hc | hc
        · exact h.components c hc
        · rw [List.mem_singleton] at hc
          rw [hc]
          exact h.isComponent hrest hlow hmem }

/-- Leaves a node whose targets were all looked at. -/
theorem leave (h : Scanning adj order s (q :: below)) (hrest : q.rest = []) :
    Scanning adj order (s.leave q) (lowerHead q.low below) := by
  have hq : q ∈ q :: below := List.mem_cons_self
  have hsorted := List.pairwise_cons.1 h.visits_sorted
  unfold Scan.leave
  split
  · rename_i hlow
    rw [beq_iff_eq] at hlow
    have hlower : lowerHead q.low below = below := by
      cases below with
      | nil => rfl
      | cons p below =>
          have hp : p.low ≤ q.low := by
            have h₁ := h.low_le p (by simp)
            have h₂ := hsorted.1 p List.mem_cons_self
            omega
          simp [lowerHead, Nat.min_eq_left hp]
    rw [hlower]
    exact h.close hrest hlow
  · rename_i hlow
    rw [beq_iff_eq] at hlow
    have hopen : q.low < q.index := Nat.lt_of_le_of_ne (h.low_le q hq) hlow
    rcases h.low_reached q hq with ⟨y, hy, hreach⟩
    cases below with
    | nil =>
        rcases h.back _ hy with ⟨r, hr, hle, _⟩
        rw [List.mem_singleton] at hr
        subst hr
        exact absurd hopen (Nat.not_lt.2 hle)
    | cons p below =>
        have hp : p ∈ q :: p :: below := by simp
        have hlowered : Scanning adj order s (q :: { p with low := min p.low q.low } :: below) := by
          refine replace [q] h rfl rfl (Nat.min_le_left _ _) ?_ (List.Subset.refl _)
            fun v hv => Or.inl hv
          rcases Nat.le_total p.low q.low with hle | hle
          · rw [Nat.min_eq_left hle]
            exact h.low_reached p hp
          · rw [Nat.min_eq_right hle]
            have hpq : adj.Reaches p.node q.node :=
              h.forth p hp _ (h.visits_opened q hq) (h.index_le_head hp)
            exact ⟨y, hy, hpq.trans hreach⟩
        exact hlowered.pop hrest hopen (Nat.min_le_right _ _)

/-! ### Runs -/

/-- A target that is neither fresh nor open is in a closed component. -/
theorem mem_components_of_leads (h : Scanning adj order s visits) {u : String}
    (huv : adj.Leads u next) (hfresh : next ∉ s.fresh) (hopen : s.opened.lookup next = none) :
    next ∈ s.components.flatten := by
  have hentered := (h.cover next (Adjacency.mem_mentioned_of_leads huv)).resolve_left hfresh
  refine (List.mem_append.1 hentered).resolve_left ?_
  intro hmem
  rcases List.mem_map.1 hmem with ⟨e, he, rfl⟩
  rw [List.lookup_eq_none_iff] at hopen
  simpa using hopen e he

/-- A search to its end keeps the invariant, and what was entered. -/
theorem run (h : Scanning adj order s visits) :
    Scanning adj order (scanComponents adj s visits) [] ∧
      (scanComponents adj s visits).fresh ⊆ s.fresh := by
  fun_induction scanComponents adj s visits with
  | case1 s => exact ⟨h, List.Subset.refl _⟩
  | case2 s node index low below ih =>
      rcases ih (h.leave rfl) with ⟨hrun, hsub⟩
      rw [fresh_leave] at hsub
      exact ⟨hrun, hsub⟩
  | case3 s node index low next rest below hfresh ih =>
      rcases ih (h.enter (by simpa using hfresh)) with ⟨hrun, hsub⟩
      exact ⟨hrun, List.Subset.trans hsub List.filter_sublist.subset⟩
  | case4 s node index low next rest below hfresh number hnumber ih =>
      rcases List.lookup_eq_some_iff.1 hnumber with ⟨before, after, heq, _⟩
      exact ih (h.reach (by simp [heq]))
  | case5 s node index low next rest below hfresh hnumber ih =>
      have hleads := h.rest_leads _ List.mem_cons_self next List.mem_cons_self
      exact ih (h.skip (h.mem_components_of_leads hleads (by simpa using hfresh) hnumber))

/-- Searching from each of some start nodes keeps the invariant, and enters them all. -/
theorem scanAll (h : Scanning adj order s []) {starts : List String} (hstarts : starts ⊆ order) :
    Scanning adj order (starts.foldl (scanFrom adj) s) [] ∧
      (starts.foldl (scanFrom adj) s).fresh ⊆ s.fresh ∧
      ∀ v ∈ starts, v ∉ (starts.foldl (scanFrom adj) s).fresh := by
  induction starts generalizing s with
  | nil => exact ⟨h, List.Subset.refl _, by simp⟩
  | cons start starts ih =>
      rw [List.cons_subset] at hstarts
      have hstep : Scanning adj order (scanFrom adj s start) [] ∧
          (scanFrom adj s start).fresh ⊆ s.fresh ∧ start ∉ (scanFrom adj s start).fresh := by
        unfold scanFrom
        split
        · rename_i hfresh
          rcases (h.start (by simpa using hfresh) hstarts.1).run with ⟨hrun, hsub⟩
          refine ⟨hrun, List.Subset.trans hsub List.filter_sublist.subset, ?_⟩
          intro hmem
          simpa [Scan.enter, without] using hsub hmem
        · rename_i hfresh
          exact ⟨h, List.Subset.refl _, by simpa using hfresh⟩
      rcases ih hstep.1 hstarts.2 with ⟨hrun, hsub, hnot⟩
      refine ⟨hrun, List.Subset.trans hsub hstep.2.1, ?_⟩
      intro v hv
      rcases List.mem_cons.1 hv with rfl | hv
      · exact fun hmem => hstep.2.2 (hsub hmem)
      · exact hnot v hv

/-- At the end of a search no component is open. -/
theorem opened_eq_nil (h : Scanning adj order s []) : s.opened = [] := by
  rw [List.eq_nil_iff_forall_not_mem]
  intro e he
  rcases h.back e he with ⟨p, hp, _⟩
  exact absurd hp List.not_mem_nil

end Scanning

/-! ## All start nodes -/

/-- What the search from all start nodes ends with. -/
theorem exists_scanning_components (order : List String) (adj : Adjacency) :
    ∃ s, Scanning adj order s [] ∧ s.components = components order adj ∧
      ∀ v, v ∈ (components order adj).flatten ↔ adj.Accessible order v := by
  rcases (Scanning.initial adj order).scanAll (List.Subset.refl order) with ⟨hrun, _, hstarts⟩
  refine ⟨_, hrun, rfl, ?_⟩
  have hentered : (order.foldl (scanFrom adj)
      { fresh := Adjacency.mentioned order adj }).entered = (components order adj).flatten := by
    rw [Scan.entered, hrun.opened_eq_nil]
    rfl
  intro v
  constructor
  · intro hv
    exact hrun.accessible v (hentered ▸ hv)
  · intro hv
    refine hv.of_closed ?_ fun a b ha hab => hrun.sinks_first.mem_of_leads ha hab
    intro start hstart
    rw [← hentered]
    exact (hrun.cover start (Adjacency.mem_mentioned_of_mem hstart)).resolve_left
      (hstarts start hstart)

/-- The components are a partition of the accessible nodes: each of them stands once, in one
component; two of them are in one component exactly if each reaches the other; and an edge leads to
the same component or to one that comes earlier. -/
theorem components_correct (order : List String) (adj : Adjacency) :
    (∀ c ∈ components order adj, c ≠ []) ∧
    (components order adj).flatten.Nodup ∧
    (∀ v, v ∈ (components order adj).flatten ↔ adj.Accessible order v) ∧
    (∀ u v, adj.Accessible order u → adj.Accessible order v →
      ((∃ c ∈ components order adj, u ∈ c ∧ v ∈ c) ↔ adj.Reaches u v ∧ adj.Reaches v u)) ∧
    (∀ u v, adj.Leads u v → ∀ (i j : Nat) (c d : List String),
      (components order adj)[i]? = some c → u ∈ c →
      (components order adj)[j]? = some d → v ∈ d → j ≤ i) := by
  rcases exists_scanning_components order adj with ⟨s, hrun, hcomponents, hmem⟩
  have hnodup := hrun.nodup
  have hsinks := hrun.sinks_first
  have hclasses := hrun.components
  rw [Scan.entered, hrun.opened_eq_nil, List.map_nil, List.nil_append, hcomponents] at hnodup
  rw [hcomponents] at hsinks hclasses
  refine ⟨fun c hc => (hclasses c hc).1, hnodup, hmem, ?_, ?_⟩
  · intro u v hu _
    constructor
    · rintro ⟨c, hc, huc, hvc⟩
      exact ((hclasses c hc).2 u huc v).1 hvc
    · intro huv
      rcases List.mem_flatten.1 ((hmem u).2 hu) with ⟨c, hc, huc⟩
      exact ⟨c, hc, huc, ((hclasses c hc).2 u huc v).2 huv⟩
  · intro u v huv i j c d hi hu hj hv
    exact hsinks.le_of_leads hnodup hi hj hu hv huv

end Graph
end CrossAudit
