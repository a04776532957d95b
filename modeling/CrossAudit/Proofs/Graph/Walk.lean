import CrossAudit.Graph.Cycle
import Mathlib.Data.List.Chain
import Mathlib.Logic.Relation

/-!
# Walks in an adjacency table

The table of a graph is read as a relation between nodes.  Reachability and directed cycles are
stated with the closures of that relation, so that they do not mention any search.

Main results:

- Theorem `Adjacency.mem_mentioned_of_leads`: a target is always among the nodes that a search
  starts with as fresh.
- Theorem `Adjacency.Accessible.of_closed`: a property of the start nodes that edges carry along
  holds of everything accessible.
- Theorem `ClosedWalk.exists_transGen`: a closed walk is a directed cycle through one of its nodes.
-/

namespace CrossAudit
namespace Graph

open Relation

namespace Adjacency

variable {adj : Adjacency} {order : List String} {u v w : String}

/-- A node leads to its targets. -/
def Leads (adj : Adjacency) (u v : String) : Prop :=
  v ∈ adj.targets u

/-- A node reaches itself and whatever a walk from it ends in. -/
def Reaches (adj : Adjacency) : String → String → Prop :=
  ReflTransGen adj.Leads

/-- What some node of a list reaches. -/
def Accessible (adj : Adjacency) (order : List String) (v : String) : Prop :=
  ∃ s ∈ order, adj.Reaches s v

/-- The targets of a node stand in some row of the table. -/
theorem exists_row_of_leads (h : adj.Leads u v) : ∃ row ∈ adj, v ∈ row.2 := by
  unfold Leads targets at h
  cases hrow : adj.lookup u with
  | none =>
      rw [hrow] at h
      simp at h
  | some row =>
      rw [hrow] at h
      rw [List.lookup_eq_some_iff] at hrow
      rcases hrow with ⟨before, after, hadj, _⟩
      exact ⟨(u, row), by simp [hadj], h⟩

/-- Every target is mentioned. -/
theorem mem_mentioned_of_leads (h : adj.Leads u v) : v ∈ mentioned order adj := by
  rcases exists_row_of_leads h with ⟨row, hrow, hv⟩
  exact List.mem_append_right _ (List.mem_flatMap.2 ⟨row, hrow, hv⟩)

/-- Every start node is mentioned. -/
theorem mem_mentioned_of_mem (h : v ∈ order) : v ∈ mentioned order adj :=
  List.mem_append_left _ h

theorem Accessible.of_mem (h : v ∈ order) : adj.Accessible order v :=
  ⟨v, h, ReflTransGen.refl⟩

theorem Accessible.step (h : adj.Accessible order u) (huv : adj.Leads u v) :
    adj.Accessible order v := by
  rcases h with ⟨s, hs, hsu⟩
  exact ⟨s, hs, hsu.tail huv⟩

/-- A property of the start nodes that edges carry along holds of everything accessible. -/
theorem Accessible.of_closed {P : String → Prop} (hstart : ∀ s ∈ order, P s)
    (hstep : ∀ a b, P a → adj.Leads a b → P b) (h : adj.Accessible order v) : P v := by
  rcases h with ⟨s, hs, hsv⟩
  induction hsv with
  | refl => exact hstart s hs
  | tail _ hab ih => exact hstep _ _ ih hab

end Adjacency

/-! ## Closed walks -/

/-- The edge that closes a list of nodes: from its last node to its first. -/
def Closes (nodes : List String) (u v : String) : Prop :=
  nodes.getLast? = some u ∧ nodes.head? = some v

/-- A list of nodes in which each leads to the next, and the last to the first. -/
structure ClosedWalk (adj : Adjacency) (nodes : List String) : Prop where
  ne_nil : nodes ≠ []
  chain : nodes.IsChain adj.Leads
  closing : ∀ u v, Closes nodes u v → adj.Leads u v

/-- Along a chain the first node reaches the last one. -/
theorem reaches_of_isChain {adj : Adjacency} {nodes : List String} {u v : String}
    (hchain : nodes.IsChain adj.Leads) (h : Closes nodes u v) : adj.Reaches v u := by
  induction nodes generalizing v with
  | nil => simp [Closes] at h
  | cons a rest ih =>
      rcases h with ⟨hlast, hhead⟩
      simp only [List.head?_cons, Option.some.injEq] at hhead
      subst hhead
      cases rest with
      | nil =>
          simp only [List.getLast?_singleton, Option.some.injEq] at hlast
          subst hlast
          exact ReflTransGen.refl
      | cons b rest =>
          rw [List.isChain_cons_cons] at hchain
          rw [List.getLast?_cons_cons] at hlast
          exact ReflTransGen.head hchain.1 (ih hchain.2 ⟨hlast, rfl⟩)

/-- A closed walk is a directed cycle through its first node. -/
theorem ClosedWalk.exists_transGen {adj : Adjacency} {nodes : List String}
    (h : ClosedWalk adj nodes) : ∃ v ∈ nodes, TransGen adj.Leads v v := by
  cases nodes with
  | nil => exact absurd rfl h.ne_nil
  | cons v rest =>
      have hclose : Closes (v :: rest) ((v :: rest).getLast (by simp)) v :=
        ⟨List.getLast?_eq_some_getLast (by simp), rfl⟩
      have hwalk := reaches_of_isChain h.chain hclose
      exact ⟨v, List.mem_cons_self, TransGen.tail' hwalk (h.closing _ _ hclose)⟩

end Graph
end CrossAudit
