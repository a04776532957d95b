import CrossAudit.Proofs.Graph.Order

/-!
# Walks along the edges of a graph

A walk is a list of names, each joined to the next by an edge of the graph.  How far a node is from
another, and how many components a walk passes through, are read off such lists.  The searches work
on the table of a graph instead, which leads along its edges and nowhere else.

Main results:

- Theorem `leads_adjacency`: the table of a graph leads along its edges.
- Theorem `steps_iff_exists_walk`: so many steps lead to a node exactly if a walk with so many edges
  ends there.
- Theorem `crosses_adjacency_iff`: so many edges between components can be taken from a node exactly
  if a walk from it takes so many.
-/

namespace CrossAudit
namespace Graph

open Relation

/-! ## Walks -/

/-- An edge joins its source to its target. -/
def Joins (g : Graph) (u v : String) : Prop :=
  ∃ e ∈ g.edges, e.source = u ∧ e.target = v

/-- A walk from a node of a graph along its edges, given by the names that it visits. -/
structure Walk (g : Graph) (w : List String) : Prop where
  start : ∃ v ∈ g.ids, w.head? = some v
  chain : w.IsChain g.Joins

/-- The table of a graph leads along its edges. -/
theorem leads_adjacency (g : Graph) : g.adjacency.Leads = g.Joins := by
  funext u v
  rw [eq_iff_iff, adjacency, leads_tableOf_iff, Joins]

theorem reaches_adjacency (g : Graph) : g.adjacency.Reaches = ReflTransGen g.Joins := by
  rw [Adjacency.Reaches, leads_adjacency]

/-! ## Steps -/

/-- So many steps along a relation lead from one name to another. -/
inductive Steps (r : String → String → Prop) : Nat → String → String → Prop where
  | refl (v : String) : Steps r 0 v v
  | head {n : Nat} {u v w : String} : r u v → Steps r n v w → Steps r (n + 1) u w

namespace Steps

variable {r : String → String → Prop} {n : Nat} {u v w : String}

theorem tail (h : Steps r n u v) (hvw : r v w) : Steps r (n + 1) u w := by
  induction h with
  | refl v => exact .head hvw (.refl w)
  | head hab _ ih => exact .head hab (ih hvw)

/-- What steps carry along holds at their end. -/
theorem of_carried {P : String → Prop} (hstep : ∀ a b, P a → r a b → P b) (h : Steps r n u v)
    (hu : P u) : P v := by
  induction h with
  | refl v => exact hu
  | head hab _ ih => exact ih (hstep _ _ hu hab)

/-- The last of some steps can be taken off. -/
theorem exists_last (h : Steps r (n + 1) u w) : ∃ v, Steps r n u v ∧ r v w := by
  induction n generalizing u with
  | zero =>
      rcases h with _ | ⟨huv, hvw⟩
      cases hvw
      exact ⟨u, .refl u, huv⟩
  | succ n ih =>
      rcases h with _ | ⟨hux, hxw⟩
      rcases ih hxw with ⟨v, hxv, hvw⟩
      exact ⟨v, .head hux hxv, hvw⟩

end Steps

/-- So many steps lead to a node exactly if a walk with so many edges ends there. -/
theorem steps_iff_exists_walk {r : String → String → Prop} {n : Nat} {u v : String} :
    Steps r n u v ↔ ∃ w : List String, w.IsChain r ∧ w.head? = some u ∧ w.getLast? = some v ∧
      w.length = n + 1 := by
  constructor
  · intro h
    induction h with
    | refl v => exact ⟨[v], by simp⟩
    | @head n a b c hab _ ih =>
        rcases ih with ⟨w, hchain, hhead, hlast, hlength⟩
        rcases List.head?_eq_some_iff.1 hhead with ⟨rest, rfl⟩
        refine ⟨a :: b :: rest, hchain.cons_cons hab, rfl, ?_, by simpa using hlength⟩
        rwa [List.getLast?_cons_cons]
  · rintro ⟨w, hchain, hhead, hlast, hlength⟩
    induction w generalizing n u with
    | nil => cases hhead
    | cons a rest ih =>
        simp only [List.head?_cons, Option.some.injEq] at hhead
        subst hhead
        cases rest with
        | nil =>
            simp only [List.getLast?_singleton, Option.some.injEq] at hlast
            obtain rfl : n = 0 := by simpa using hlength.symm
            exact hlast ▸ .refl a
        | cons b rest =>
            rw [List.isChain_cons_cons] at hchain
            rw [List.getLast?_cons_cons] at hlast
            obtain ⟨n, rfl⟩ : ∃ m, n = m + 1 := ⟨rest.length, by simpa using hlength.symm⟩
            exact .head hchain.1 (ih hchain.2 rfl hlast (by simpa using hlength))

/-! ## Edges between components -/

/-- Two names are in one component of a graph: each leads to the other. -/
def Mutual (g : Graph) (u v : String) : Prop :=
  ReflTransGen g.Joins u v ∧ ReflTransGen g.Joins v u

open Classical in
/-- How many edges of a walk lead from one component to another. -/
noncomputable def crossings (g : Graph) : List String → Nat
  | [] => 0
  | [_] => 0
  | u :: v :: rest => (if g.Mutual u v then 0 else 1) + g.crossings (v :: rest)

theorem mutual_of_joins {g : Graph} {u v : String} (h : g.Joins u v) :
    g.Mutual u v ↔ g.adjacency.Reaches v u := by
  rw [reaches_adjacency]
  exact ⟨And.right, fun hvu => ⟨ReflTransGen.single h, hvu⟩⟩

/-- So many edges between components can be taken from a node exactly if a walk from it takes so
many. -/
theorem crosses_adjacency_iff {g : Graph} {v : String} {n : Nat} :
    Crosses g.adjacency v n ↔
      ∃ w : List String, w.head? = some v ∧ w.IsChain g.Joins ∧ g.crossings w = n := by
  constructor
  · intro h
    induction h with
    | stop u => exact ⟨[u], rfl, List.IsChain.singleton u, rfl⟩
    | @within a b n hab hba _ ih =>
        rcases ih with ⟨w, hhead, hchain, hcount⟩
        rcases List.head?_eq_some_iff.1 hhead with ⟨rest, rfl⟩
        rw [leads_adjacency] at hab
        refine ⟨a :: b :: rest, rfl, hchain.cons_cons hab, ?_⟩
        rw [crossings, if_pos ((mutual_of_joins hab).2 hba), hcount, Nat.zero_add]
    | @across a b n hab hba _ ih =>
        rcases ih with ⟨w, hhead, hchain, hcount⟩
        rcases List.head?_eq_some_iff.1 hhead with ⟨rest, rfl⟩
        rw [leads_adjacency] at hab
        refine ⟨a :: b :: rest, rfl, hchain.cons_cons hab, ?_⟩
        rw [crossings, if_neg fun hab' => hba ((mutual_of_joins hab).1 hab'), hcount, Nat.add_comm]
  · rintro ⟨w, hhead, hchain, hcount⟩
    induction w generalizing v n with
    | nil => cases hhead
    | cons a rest ih =>
        simp only [List.head?_cons, Option.some.injEq] at hhead
        subst hhead
        cases rest with
        | nil => exact hcount ▸ .stop a
        | cons b rest =>
            rw [List.isChain_cons_cons] at hchain
            have hleads : g.adjacency.Leads a b := leads_adjacency g ▸ hchain.1
            have hrest : Crosses g.adjacency b (g.crossings (b :: rest)) := ih rfl hchain.2 rfl
            rw [crossings] at hcount
            by_cases hmutual : g.Mutual a b
            · rw [if_pos hmutual, Nat.zero_add] at hcount
              exact hcount ▸ .within hleads ((mutual_of_joins hchain.1).1 hmutual) hrest
            · rw [if_neg hmutual, Nat.add_comm] at hcount
              exact hcount ▸ .across hleads
                (fun hba => hmutual ((mutual_of_joins hchain.1).2 hba)) hrest

end Graph
end CrossAudit
