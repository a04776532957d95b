import CrossAudit.Syntax.Outline
import Mathlib.Data.List.Flatten
import Mathlib.Data.List.Lex
import Mathlib.Logic.Relation
import Mathlib.Tactic.Common

/-!
# Walks through a syntax tree

A forward scan that may enter every node lists a node and, child after child, the scans of the
selected children.  It meets exactly the places that are reached from the node along selected
children, in pre-order and each of them once.  Pre-order is the lexicographic order of the places
taken on the way down.

Main results:

- Theorem `Cursor.along_eq`: the scan in terms of the scans of the children.
- Theorem `Cursor.mem_along_iff`: what a scan meets.
- Theorem `Cursor.pairwise_precedes_along`: a scan goes in pre-order.
- Theorem `Cursor.mem_walk_root_iff`: the outline of a tree has the kept nodes.
-/

namespace CrossAudit
namespace Syntax

namespace Cursor

variable {c d e : Cursor} {select : Node → Bool}

/-! ## Children -/

/-- A child is a node at a place below, with its parent above. -/
theorem mem_children_iff :
    d ∈ c.children ↔
      ∃ place, c.node.children[place]? = some d.node ∧ d.above = (c.node, place) :: c.above := by
  rw [children, List.mem_map]
  constructor
  · rintro ⟨⟨n, place⟩, hn, rfl⟩
    exact ⟨place, List.mk_mem_zipIdx_iff_getElem?.1 hn, rfl⟩
  · rintro ⟨place, hn, habove⟩
    refine ⟨(d.node, place), List.mk_mem_zipIdx_iff_getElem?.2 hn, ?_⟩
    exact congrArg (Cursor.mk d.node) habove.symm

/-- A child has fewer nodes than its parent. -/
theorem size_lt_of_mem_children (h : d ∈ c.children) : d.node.size < c.node.size := by
  have hle : d.node.size ≤ total (c.children.map (·.node.size)) :=
    le_total_of_mem (List.mem_map_of_mem h)
  rw [total_size_children] at hle
  rw [Node.size_eq c.node]
  omega

/-- The parent of a child is where it comes from. -/
theorem parent?_of_mem_children (h : d ∈ c.children) : d.parent? = some c := by
  obtain ⟨place, -, habove⟩ := mem_children_iff.1 h
  rw [parent?, habove]

/-- What holds of a place once it holds of all its children holds everywhere. -/
theorem child_induction {motive : Cursor → Prop}
    (step : ∀ c, (∀ d ∈ c.children, motive d) → motive c) (c : Cursor) : motive c := by
  induction hsize : c.node.size using Nat.strong_induction_on generalizing c with
  | _ size ih =>
      exact step c fun d hd => ih _ (hsize ▸ size_lt_of_mem_children hd) d rfl

/-! ## Scans -/

/-- A place and what lies below it along selected children, in pre-order. -/
def along (select : Node → Bool) (c : Cursor) : List Cursor :=
  c.scan select (fun _ => true) false

/-- The walk goes along all kept nodes. -/
theorem walk_eq_along (c : Cursor) : c.walk = c.along Node.isKept :=
  rfl

/-- Scanning children goes along each of those that are selected, in order. -/
theorem scanChildren_eq (parent : Node) (above : List (Node × Nat)) (place : Nat)
    (kids : List Node) :
    scanChildren select (fun _ => true) false parent above place kids =
      (((kids.zipIdx place).map fun k => Cursor.mk k.1 ((parent, k.2) :: above)).filter
        (select ·.node)).flatMap (along select) := by
  induction kids generalizing place with
  | nil => simp [scanChildren]
  | cons child kids ih =>
      rw [scanChildren, List.zipIdx_cons, List.map_cons, List.filter_cons]
      by_cases hchild : select child = true <;> simp [hchild, ih, along, scan]

/-- A scan is the place itself and, child after child, the scans of the selected children. -/
theorem along_eq (select : Node → Bool) (c : Cursor) :
    c.along select = c :: (c.children.filter (select ·.node)).flatMap (along select) := by
  obtain ⟨⟨info, kids⟩, above⟩ := c
  rw [along, scan, Node.scan, if_pos rfl, scanChildren_eq]
  rfl

/-- Every way along starts at the node itself. -/
theorem mem_along_self (select : Node → Bool) (c : Cursor) : c ∈ c.along select := by
  rw [along_eq]
  exact List.mem_cons_self

/-- Along a node are the node and what is along its selected children. -/
theorem mem_along_cases :
    d ∈ c.along select ↔ d = c ∨ ∃ k ∈ c.children, select k.node ∧ d ∈ k.along select := by
  rw [along_eq, List.mem_cons, List.mem_flatMap]
  simp only [List.mem_filter, and_assoc]

/-! ## What a scan meets -/

/-- A step down to a selected child. -/
def Leads (select : Node → Bool) (c d : Cursor) : Prop :=
  d ∈ c.children ∧ select d.node

/-- A scan meets the places that are reached along selected children. -/
theorem mem_along_iff : d ∈ c.along select ↔ Relation.ReflTransGen (Leads select) c d := by
  constructor
  · intro hd
    induction c using child_induction with
    | step c ih =>
        rcases mem_along_cases.1 hd with rfl | ⟨k, hk, hselect, hd⟩
        · exact .refl
        · exact (ih k hk hd).head ⟨hk, hselect⟩
  · intro hreach
    induction hreach using Relation.ReflTransGen.head_induction_on with
    | refl => exact mem_along_self select d
    | head hlead _ ih => exact mem_along_cases.2 (.inr ⟨_, hlead.1, hlead.2, ih⟩)

/-! ## Pre-order -/

/-- The places taken on the way down. -/
def way (c : Cursor) : List Nat := c.path.reverse

/-- The way to a child has one more step. -/
theorem way_child {place : Nat} (h : d.above = (c.node, place) :: c.above) :
    d.way = c.way ++ [place] := by
  simp [way, path, h]

/-- The way to a child starts with that to its parent. -/
theorem way_prefix_of_mem_children (h : d ∈ c.children) : c.way <+: d.way := by
  obtain ⟨place, -, habove⟩ := mem_children_iff.1 h
  exact ⟨[place], (way_child habove).symm⟩

/-- The way to what is along a node starts with that to the node. -/
theorem way_prefix_of_mem_along (h : d ∈ c.along select) : c.way <+: d.way := by
  induction mem_along_iff.1 h with
  | refl => exact List.prefix_rfl
  | tail hreach hlead ih =>
      exact (ih (mem_along_iff.2 hreach)).trans (way_prefix_of_mem_children hlead.1)

/-- One place stands before another in pre-order. -/
def Precedes (c d : Cursor) : Prop :=
  List.Lex (· < ·) c.way d.way

/-- A node precedes everything along its children. -/
theorem precedes_of_mem_along_child {k : Cursor} (hk : k ∈ c.children) (hd : d ∈ k.along select) :
    c.Precedes d := by
  obtain ⟨place, -, habove⟩ := mem_children_iff.1 hk
  obtain ⟨rest, hrest⟩ := way_prefix_of_mem_along hd
  rw [Precedes, ← hrest, way_child habove, List.append_assoc]
  simpa using List.Lex.append_left (· < ·) (@List.Lex.nil _ (· < ·) place rest) c.way

/-- A child comes before the children to its right. -/
theorem pairwise_children (c : Cursor) :
    c.children.Pairwise fun d e =>
      ∃ i j, i < j ∧ d.way = c.way ++ [i] ∧ e.way = c.way ++ [j] := by
  rw [children, List.pairwise_map, List.pairwise_iff_getElem]
  intro i j hi hj hij
  simp only [List.getElem_zipIdx]
  exact ⟨_, _, by omega, way_child rfl, way_child rfl⟩

/-- No node has a child twice. -/
theorem nodup_children (c : Cursor) : c.children.Nodup := by
  refine c.pairwise_children.imp ?_
  rintro d e ⟨i, j, hij, hd, he⟩ rfl
  rw [hd, List.append_cancel_left_eq, List.singleton_inj] at he
  exact Nat.ne_of_lt hij he

/-- What is along an earlier child precedes what is along a later one. -/
theorem precedes_of_mem_along_children {i j : Nat} (hij : i < j) {f g : Cursor}
    (hf : f.way = c.way ++ [i]) (hg : g.way = c.way ++ [j]) (hd : d ∈ f.along select)
    (he : e ∈ g.along select) : d.Precedes e := by
  obtain ⟨left, hleft⟩ := way_prefix_of_mem_along hd
  obtain ⟨right, hright⟩ := way_prefix_of_mem_along he
  rw [Precedes, ← hleft, ← hright, hf, hg, List.append_assoc, List.append_assoc]
  exact List.Lex.append_left (· < ·) (List.Lex.rel hij) c.way

/-- A scan goes in pre-order. -/
theorem pairwise_precedes_along (select : Node → Bool) (c : Cursor) :
    (c.along select).Pairwise Precedes := by
  induction c using child_induction with
  | step c ih =>
      rw [along_eq, List.pairwise_cons]
      refine ⟨fun d hd => ?_, List.pairwise_flatMap.2 ⟨fun k hk => ?_, ?_⟩⟩
      · obtain ⟨k, hk, hd⟩ := List.mem_flatMap.1 hd
        exact precedes_of_mem_along_child (List.mem_filter.1 hk).1 hd
      · exact ih k (List.mem_filter.1 hk).1
      · refine (c.pairwise_children.filter _).imp ?_
        rintro f g ⟨i, j, hij, hf, hg⟩ d hd e he
        exact precedes_of_mem_along_children hij hf hg hd he

/-- No node precedes itself. -/
theorem Precedes.ne (h : c.Precedes d) : c ≠ d := by
  rintro rfl
  exact List.lex_irrefl lt_irrefl _ h

/-- Nothing is met twice along a node. -/
theorem nodup_along (select : Node → Bool) (c : Cursor) : (c.along select).Nodup :=
  (pairwise_precedes_along select c).imp Precedes.ne

/-! ## The outline of a tree -/

/-- A place belongs to the outline of a tree: it is the root, or it is named, not missing and a
child of a place of the outline. -/
inductive Kept (root : Node) : Cursor → Prop where
  | root : Kept root (.root root)
  | child {c d : Cursor} (hc : Kept root c) (hd : d ∈ c.children) (named : d.node.info.named = true)
      (present : d.node.info.missing = false) : Kept root d

/-- The walk from the root meets exactly the kept nodes. -/
theorem mem_walk_root_iff {root : Node} : c ∈ (Cursor.root root).walk ↔ Kept root c := by
  rw [walk_eq_along, mem_along_iff]
  constructor
  · intro hreach
    induction hreach with
    | refl => exact .root
    | tail _ hlead ih =>
        obtain ⟨hchild, hkept⟩ := hlead
        rw [Node.isKept, Bool.and_eq_true, Bool.not_eq_true'] at hkept
        exact ih.child hchild hkept.1 hkept.2
  · intro hkept
    induction hkept with
    | root => exact .refl
    | child _ hd named present ih =>
        exact ih.tail ⟨hd, by rw [Node.isKept, named, present]; rfl⟩

end Cursor
end Syntax
end CrossAudit
