import CrossAudit.Proofs.Syntax.Walk
import CrossAudit.Syntax.Document
import Mathlib.Data.List.Forall2
import Mathlib.Data.List.Nodup
import Mathlib.Data.List.Perm.Basic

/-!
# How an outline is made and walked

The conversion of a tree takes one pending node after another.  A step gives each kept child of
the node that is taken a node of its own, in order, and leaves all other nodes as they are
(`Conversion.take_eq`).  `Conversion.Partway` is what every step keeps: a node is either pending
and without children, or its children are the nodes for the kept children of its place; each node
but the first is listed by its parent; and the complaints that are noted, with those still to come
from pending nodes, are the complaints about all places that have a node.

The nodes are numbered in the order of the conversion, which is not the order of the tree.  That a
walk along the children meets the outline of the tree in pre-order is a second induction, on
places (`Outline.exists_covers`); no node is left out since every parent comes before its children.

Main results:

- Theorem `Conversion.Partway.run`: what every step keeps holds of the outline of a tree.
- Theorem `Outline.walk_ofTree_perm`: a walk meets every node once.
- Theorem `Outline.map_handle_walkNodes`: a walk meets the outline of the tree in pre-order.
-/

namespace CrossAudit
namespace Syntax

/-! ## One step -/

namespace OutlineNode

/-- A node of an outline below another one. -/
def under (up : Nat) (c : Cursor) : OutlineNode :=
  { wrap c (some up) with owned := true }

/-- A node with more children. -/
def adopt (numbers : List Nat) (n : OutlineNode) : OutlineNode :=
  { n with children := n.children ++ numbers }

/-- To adopt nobody changes nothing. -/
theorem adopt_nil (n : OutlineNode) : adopt [] n = n := by
  rw [adopt, List.append_nil]

/-- Children that are adopted in two rounds are adopted in one. -/
theorem adopt_adopt (later earlier : List Nat) (n : OutlineNode) :
    adopt later (adopt earlier n) = adopt (earlier ++ later) n := by
  simp only [adopt, List.append_assoc]

end OutlineNode

namespace Conversion

open OutlineNode

/-- A missing node is complained about and not kept. -/
theorem look_of_missing {child : Cursor} (h : child.node.info.missing = true) (up : Nat)
    (s : Conversion) : look up s child = s.complain (.ofMissing child.node.info) := by
  rw [look, if_pos h]

/-- A node that is kept gets the next number, a place among the children and a place on the stack.
-/
theorem look_of_kept {child : Cursor} (h : child.node.isKept = true) (up : Nat) (s : Conversion) :
    look up s child =
      { s with
        nodes := (s.nodes.modify up (adopt [s.nodes.size])).push (under up child)
        pending := (child, s.nodes.size) :: s.pending } := by
  rw [Node.isKept, Bool.and_eq_true, Bool.not_eq_true'] at h
  rw [look, if_neg (by simp [h.2]), if_neg (by simp [Node.isNamed, h.1])]
  rfl

/-- A token that is neither missing nor kept leaves no trace. -/
theorem look_of_token {child : Cursor} (hmissing : ¬child.node.info.missing = true)
    (hkept : ¬child.node.isKept = true) (up : Nat) (s : Conversion) : look up s child = s := by
  have hnamed : child.node.isNamed = false := by
    simpa [Node.isKept, hmissing, Node.isNamed] using hkept
  rw [look, if_neg hmissing, if_pos (by rw [hnamed]; rfl)]

/-- A change to an entry that is there does not see what is pushed behind it. -/
theorem modify_push {α : Type} {xs : Array α} {i : Nat} (h : i < xs.size) (f : α → α) (x : α) :
    (xs.push x).modify i f = (xs.modify i f).push x := by
  refine Array.ext (by simp) fun j _ _ => ?_
  simp only [Array.getElem_modify, Array.getElem_push, Array.size_modify]
  split <;> split <;> first | rfl | omega

/-- To adopt nobody changes no entry of an outline. -/
theorem modify_adopt_nil (nodes : Array OutlineNode) (up : Nat) :
    nodes.modify up (adopt []) = nodes := by
  refine Array.ext (Array.size_modify ..) fun j _ _ => ?_
  simp [Array.getElem_modify, adopt_nil]

/-- Two rounds of adoption at one entry are one round. -/
theorem modify_adopt_adopt (nodes : Array OutlineNode) (up : Nat) (earlier later : List Nat) :
    (nodes.modify up (adopt earlier)).modify up (adopt later) =
      nodes.modify up (adopt (earlier ++ later)) := by
  refine Array.ext (by simp) fun j _ _ => ?_
  simp only [Array.getElem_modify]
  split
  · exact adopt_adopt later earlier _
  · rfl

/-- Looking at children gives those that are kept a node each, in order. -/
theorem foldl_look (up : Nat) (kids : List Cursor) (s : Conversion) (hup : up < s.nodes.size) :
    kids.foldl (look up) s =
      { nodes := s.nodes.modify up (adopt
            (List.range' s.nodes.size (kids.filter (·.node.isKept)).length)) ++
          ((kids.filter (·.node.isKept)).map (under up)).toArray
        diagnostics := s.diagnostics ++
          ((kids.filter (·.node.info.missing)).map (.ofMissing ·.node.info)).toArray
        pending := ((kids.filter (·.node.isKept)).zipIdx s.nodes.size).reverse ++ s.pending } := by
  induction kids generalizing s with
  | nil =>
      simp [modify_adopt_nil]
  | cons child kids ih =>
      rw [List.foldl_cons]
      by_cases hmissing : child.node.info.missing = true
      · have hkept : child.node.isKept = false := by simp [Node.isKept, hmissing]
        rw [look_of_missing hmissing, ih (s.complain _) hup]
        simp [complain, hmissing, hkept]
      · by_cases hkept : child.node.isKept = true
        · rw [look_of_kept hkept, ih _ (by simpa using Nat.lt_succ_of_lt hup)]
          simp [hmissing, hkept, modify_push, hup, List.range'_succ, modify_adopt_adopt]
        · rw [look_of_token hmissing hkept, ih s hup]
          simp [hmissing, hkept]

/-- The complaints about a place: an error mark of its own and missing children. -/
def complaints (source : ByteArray) (c : Cursor) : List Diagnostic :=
  (if c.node.info.broken then [.ofBroken source c.node.info] else []) ++
    (c.children.filter (·.node.info.missing)).map (.ofMissing ·.node.info)

/-- Taking a node gives each of its kept children a node, in order. -/
theorem take_eq (source : ByteArray) (c : Cursor) {up : Nat} {s : Conversion}
    (hup : up < s.nodes.size) :
    take source c up s =
      { nodes := s.nodes.modify up (adopt (List.range' s.nodes.size c.kept.length)) ++
          (c.kept.map (under up)).toArray
        diagnostics := s.diagnostics ++ (complaints source c).toArray
        pending := (c.kept.zipIdx s.nodes.size).reverse ++ s.pending } := by
  have hbefore : up < (if c.node.info.broken then s.complain (.ofBroken source c.node.info)
      else s).nodes.size := by
    split <;> exact hup
  rw [take, foldl_look up c.children _ hbefore, Cursor.kept, complaints]
  split <;> simp [complain]

section Take

variable {source : ByteArray} {c : Cursor} {up : Nat} {o : Outline}
  {rest : List (Cursor × Nat)}

/-- A step changes no entry but that of the node it takes. -/
theorem nodes_take_of_lt (hup : up < o.nodes.size) {i : Nat} (hi : i < o.nodes.size)
    (hne : i ≠ up) : (take source c up ⟨o, rest⟩).nodes[i]? = o.nodes[i]? := by
  rw [take_eq source c hup, Array.getElem?_append_left (by simpa using hi),
    Array.getElem?_modify, if_neg (Ne.symm hne)]

/-- The node that is taken gets the new numbers as its children. -/
theorem nodes_take_self (hup : up < o.nodes.size) :
    (take source c up ⟨o, rest⟩).nodes[up]? =
      (o.nodes[up]?).map (adopt (List.range' o.nodes.size c.kept.length)) := by
  rw [take_eq source c hup, Array.getElem?_append_left (by simpa using hup),
    Array.getElem?_modify, if_pos rfl]

/-- The new entries are the kept children, in their order. -/
theorem nodes_take_born (hup : up < o.nodes.size) (j : Nat) :
    (take source c up ⟨o, rest⟩).nodes[o.nodes.size + j]? = (c.kept[j]?).map (under up) := by
  rw [take_eq source c hup, Array.getElem?_append_right (by simp)]
  simp

/-- A node after a step is an old one, with the new children if it was taken, or a new one. -/
theorem nodes_take_cases (hup : up < o.nodes.size) {i : Nat} {m : OutlineNode}
    (h : (take source c up ⟨o, rest⟩).nodes[i]? = some m) :
    (i ≠ up ∧ o.nodes[i]? = some m) ∨
    (i = up ∧ ∃ old, o.nodes[up]? = some old ∧
      m = adopt (List.range' o.nodes.size c.kept.length) old) ∨
    ∃ j k, i = o.nodes.size + j ∧ c.kept[j]? = some k ∧ m = under up k := by
  by_cases hi : i < o.nodes.size
  · by_cases hne : i = up
    · subst hne
      rw [nodes_take_self hup, Option.map_eq_some_iff] at h
      obtain ⟨old, hold, rfl⟩ := h
      exact .inr (.inl ⟨rfl, old, hold, rfl⟩)
    · exact .inl ⟨hne, by rwa [nodes_take_of_lt hup hi hne] at h⟩
  · obtain ⟨j, rfl⟩ := Nat.exists_eq_add_of_le (Nat.le_of_not_lt hi)
    rw [nodes_take_born hup, Option.map_eq_some_iff] at h
    obtain ⟨k, hk, rfl⟩ := h
    exact .inr (.inr ⟨j, k, rfl, hk, rfl⟩)

/-- A node stays where it is; at most it gains children. -/
theorem nodes_take_old (hup : up < o.nodes.size) {i : Nat} {m : OutlineNode}
    (h : o.nodes[i]? = some m) :
    ∃ m', (take source c up ⟨o, rest⟩).nodes[i]? = some m' ∧ m'.handle = m.handle ∧
      m'.parent = m.parent ∧ m.children ⊆ m'.children := by
  by_cases hne : i = up
  · subst hne
    refine ⟨adopt (List.range' o.nodes.size c.kept.length) m, ?_, rfl, rfl, ?_⟩
    · rw [nodes_take_self hup, h, Option.map_some]
    · exact List.subset_append_left _ _
  · have hi : i < o.nodes.size := (Array.getElem?_eq_some_iff.1 h).1
    exact ⟨m, by rw [nodes_take_of_lt hup hi hne, h], rfl, rfl, List.Subset.refl _⟩

end Take

end Conversion

/-! ## What a conversion keeps -/

namespace Outline

/-- A number is that of the node for a place below another node. -/
def Heads (o : Outline) (up number : Nat) (c : Cursor) : Prop :=
  ∃ m, o.nodes[number]? = some m ∧ m.handle = c ∧ m.parent = some up

end Outline

namespace Conversion

open OutlineNode

/-- What holds of an outline in the making. -/
structure Partway (source : ByteArray) (root : Node) (s : Conversion) : Prop where
  first : ∃ m, s.nodes[0]? = some m ∧ m.handle = .root root ∧ m.parent = none
  copied : ∀ (i : Nat) (m : OutlineNode), s.nodes[i]? = some m →
    m = { wrap m.handle m.parent with children := m.children, owned := true }
  distinct : (s.pending.map (·.2)).Nodup
  waiting : ∀ c i, (c, i) ∈ s.pending → ∃ m, s.nodes[i]? = some m ∧ m.handle = c ∧ m.children = []
  settled : ∀ (i : Nat) (m : OutlineNode), s.nodes[i]? = some m → i ∉ s.pending.map (·.2) →
    List.Forall₂ (s.Heads i) m.children m.handle.kept
  linked : ∀ (i : Nat) (m : OutlineNode), s.nodes[i]? = some m → i ≠ 0 →
    ∃ p up, m.parent = some p ∧ p < i ∧ s.nodes[p]? = some up ∧ i ∈ up.children
  complained :
    (s.diagnostics.toList ++ (s.pending.map (·.1)).flatMap (complaints source)).Perm
      ((s.nodes.toList.map (·.handle)).flatMap (complaints source))

/-- The invariant holds at the start, where the root alone is known. -/
theorem partway_start (source : ByteArray) (root : Node) : Partway source root (.start root) where
  first := ⟨_, rfl, rfl, rfl⟩
  copied i m hm := by
    cases i with
    | zero => cases hm; rfl
    | succ i => cases hm
  distinct := List.pairwise_singleton _ 0
  waiting c i hc := by
    cases List.mem_singleton.1 hc
    exact ⟨_, rfl, rfl, rfl⟩
  settled i m hm hi := by
    cases i with
    | zero => exact absurd (List.mem_singleton.2 rfl) hi
    | succ i => cases hm
  linked i m hm hi := by
    cases i with
    | zero => exact absurd rfl hi
    | succ i => cases hm
  complained := List.Perm.refl _

namespace Partway

variable {source : ByteArray} {root : Node} {o : Outline} {c : Cursor} {up : Nat}
  {rest : List (Cursor × Nat)}

/-- Every number that waits on the stack is that of an entry. -/
theorem lt_size {s : Conversion} (h : Partway source root s) {i : Nat}
    (hi : i ∈ s.pending.map (·.2)) : i < s.nodes.size := by
  obtain ⟨⟨c, i⟩, hmem, rfl⟩ := List.mem_map.1 hi
  obtain ⟨m, hm, -⟩ := h.waiting c i hmem
  exact (Array.getElem?_eq_some_iff.1 hm).1

/-- The number on top of the stack is that of an entry. -/
theorem up_lt (h : Partway source root ⟨o, (c, up) :: rest⟩) : up < o.nodes.size :=
  h.lt_size List.mem_cons_self

/-- The entry of the child at an index has the number at that index. -/
theorem number_mem_range' {size j : Nat} {ks : List Cursor} {k : Cursor} (h : ks[j]? = some k) :
    size + j ∈ List.range' size ks.length := by
  obtain ⟨hj, -⟩ := List.getElem?_eq_some_iff.1 h
  exact List.mem_range'_1.2 ⟨Nat.le_add_right _ _, Nat.add_lt_add_left hj _⟩

/-- The new numbers stand for the kept children, and each waits for its own. -/
theorem heads_born (hup : up < o.nodes.size) :
    List.Forall₂ ((take source c up ⟨o, rest⟩).Heads up)
      (List.range' o.nodes.size c.kept.length) c.kept := by
  refine List.forall₂_iff_get.2 ⟨List.length_range', fun j hj hj' => ?_⟩
  refine ⟨under up (c.kept.get ⟨j, hj'⟩), ?_, rfl, rfl⟩
  have hborn := @nodes_take_born source c up o rest hup j
  simpa [List.getElem?_eq_getElem hj'] using hborn

/-- What an old number stands for does not change in a step. -/
theorem heads_old (hup : up < o.nodes.size) {p i : Nat} {d : Cursor} (h : o.Heads p i d) :
    (take source c up ⟨o, rest⟩).Heads p i d := by
  obtain ⟨m, hm, hhandle, hparent⟩ := h
  obtain ⟨m', hm', hhandle', hparent', -⟩ :=
    nodes_take_old hup hm
  exact ⟨m', hm', hhandle'.trans hhandle, hparent'.trans hparent⟩

/-- The places that wait after a step are the kept children, last first, and the rest. -/
theorem places_take (hup : up < o.nodes.size) :
    (take source c up ⟨o, rest⟩).pending.map (·.1) = c.kept.reverse ++ rest.map (·.1) := by
  rw [take_eq source c hup, List.map_append, List.map_reverse, List.zipIdx_map_fst]

/-- The numbers that wait after a step are the new ones, last first, and the rest. -/
theorem numbers_take (hup : up < o.nodes.size) :
    (take source c up ⟨o, rest⟩).pending.map (·.2) =
      (List.range' o.nodes.size c.kept.length).reverse ++ rest.map (·.2) := by
  rw [take_eq source c hup, List.map_append, List.map_reverse, List.zipIdx_map_snd]

/-- Adoption changes no handle. -/
theorem map_handle_modify (nodes : Array OutlineNode) (up : Nat) (numbers : List Nat) :
    (nodes.modify up (adopt numbers)).toList.map (·.handle) = nodes.toList.map (·.handle) := by
  refine List.ext_getElem (by simp) fun i _ _ => ?_
  simp only [List.getElem_map, Array.getElem_toList, Array.getElem_modify]
  split <;> rfl

/-- A step adds the kept children to the handles of the outline. -/
theorem handles_take (hup : up < o.nodes.size) :
    (take source c up ⟨o, rest⟩).nodes.toList.map (·.handle) =
      o.nodes.toList.map (·.handle) ++ c.kept := by
  rw [take_eq source c hup, Array.toList_append, List.map_append, map_handle_modify, List.map_map]
  exact congrArg _ (List.map_id c.kept)

/-- The number that is taken waits only once. -/
theorem notMem_rest (h : Partway source root ⟨o, (c, up) :: rest⟩) : up ∉ rest.map (·.2) :=
  (List.nodup_cons.1 h.distinct).1

/-- The entry of the root stays first in a step. -/
theorem first_take (h : Partway source root ⟨o, (c, up) :: rest⟩) :
    ∃ m, (take source c up ⟨o, rest⟩).nodes[0]? = some m ∧ m.handle = .root root ∧
      m.parent = none := by
  obtain ⟨m, hm, hhandle, hparent⟩ := h.first
  obtain ⟨m', hm', hhandle', hparent', -⟩ := nodes_take_old h.up_lt hm
  exact ⟨m', hm', hhandle'.trans hhandle, hparent'.trans hparent⟩

/-- Every entry is still the copy of a node after a step. -/
theorem copied_take (h : Partway source root ⟨o, (c, up) :: rest⟩) (i : Nat) (m : OutlineNode)
    (hm : (take source c up ⟨o, rest⟩).nodes[i]? = some m) :
    m = { wrap m.handle m.parent with children := m.children, owned := true } := by
  obtain ⟨-, hold⟩ | ⟨rfl, old, hold, rfl⟩ | ⟨j, k, rfl, hk, rfl⟩ := nodes_take_cases h.up_lt hm
  · exact h.copied i m hold
  · rw [h.copied i old hold]
    rfl
  · rfl

/-- The numbers that wait are still distinct after a step. -/
theorem distinct_take (h : Partway source root ⟨o, (c, up) :: rest⟩) :
    ((take source c up ⟨o, rest⟩).pending.map (·.2)).Nodup := by
  rw [numbers_take h.up_lt]
  refine List.Nodup.append (List.nodup_reverse.2 List.nodup_range')
    (List.nodup_cons.1 h.distinct).2 ?_
  intro i hborn hrest
  have hle := (List.mem_range'_1.1 (List.mem_reverse.1 hborn)).1
  have hlt := h.lt_size (List.mem_cons_of_mem up hrest)
  exact absurd hlt (Nat.not_lt.2 hle)

/-- An entry that waits after a step has no children yet. -/
theorem waiting_take (h : Partway source root ⟨o, (c, up) :: rest⟩) (d : Cursor) (i : Nat)
    (hd : (d, i) ∈ (take source c up ⟨o, rest⟩).pending) :
    ∃ m, (take source c up ⟨o, rest⟩).nodes[i]? = some m ∧ m.handle = d ∧ m.children = [] := by
  have hup := h.up_lt
  rw [take_eq source c hup, List.mem_append, List.mem_reverse] at hd
  rcases hd with hborn | hrest
  · obtain ⟨hle, hk⟩ := List.mk_mem_zipIdx_iff_le_and_getElem?_sub.1 hborn
    obtain ⟨j, rfl⟩ := Nat.exists_eq_add_of_le hle
    rw [Nat.add_sub_cancel_left] at hk
    refine ⟨under up d, ?_, rfl, rfl⟩
    rw [nodes_take_born hup, hk, Option.map_some]
  · obtain ⟨m, hm, hhandle, hchildren⟩ := h.waiting d i (List.mem_cons_of_mem _ hrest)
    have hne : i ≠ up := by
      rintro rfl
      exact h.notMem_rest (List.mem_map.2 ⟨(d, i), hrest, rfl⟩)
    have hi := (Array.getElem?_eq_some_iff.1 hm).1
    exact ⟨m, by rw [nodes_take_of_lt hup hi hne, hm], hhandle, hchildren⟩

/-- The node that was taken is settled, and the new nodes are pending. -/
theorem settled_take (h : Partway source root ⟨o, (c, up) :: rest⟩) (i : Nat) (m : OutlineNode)
    (hm : (take source c up ⟨o, rest⟩).nodes[i]? = some m)
    (hi : i ∉ (take source c up ⟨o, rest⟩).pending.map (·.2)) :
    List.Forall₂ ((take source c up ⟨o, rest⟩).Heads i) m.children m.handle.kept := by
  have hup := h.up_lt
  rw [numbers_take hup, List.mem_append, not_or] at hi
  obtain ⟨hne, hold⟩ | ⟨rfl, old, hold, rfl⟩ | ⟨j, k, rfl, hk, rfl⟩ := nodes_take_cases hup hm
  · refine (h.settled i m hold ?_).imp fun _ _ => heads_old hup
    rw [List.map_cons, List.mem_cons, not_or]
    exact ⟨hne, hi.2⟩
  · obtain ⟨m, hm, rfl, hchildren⟩ := h.waiting c i List.mem_cons_self
    cases hold.symm.trans hm
    rw [adopt, hchildren]
    exact heads_born hup
  · exact absurd (List.mem_reverse.2 (number_mem_range' hk)) hi.1

/-- After a step every entry but the first is still among the children of an earlier one. -/
theorem linked_take (h : Partway source root ⟨o, (c, up) :: rest⟩) (i : Nat) (m : OutlineNode)
    (hm : (take source c up ⟨o, rest⟩).nodes[i]? = some m) (hi : i ≠ 0) :
    ∃ p above, m.parent = some p ∧ p < i ∧
      (take source c up ⟨o, rest⟩).nodes[p]? = some above ∧ i ∈ above.children := by
  have hup := h.up_lt
  have hstays : ∀ old, o.nodes[i]? = some old → ∃ p above, old.parent = some p ∧ p < i ∧
      (Conversion.take source c up ⟨o, rest⟩).nodes[p]? = some above ∧ i ∈ above.children := by
    intro old hold
    obtain ⟨p, above, hparent, hlt, hp, hmem⟩ := h.linked i old hold hi
    obtain ⟨above', hp', -, -, hsubset⟩ := nodes_take_old hup hp
    exact ⟨p, above', hparent, hlt, hp', hsubset hmem⟩
  obtain ⟨-, hold⟩ | ⟨rfl, old, hold, rfl⟩ | ⟨j, k, rfl, hk, rfl⟩ := nodes_take_cases hup hm
  · exact hstays m hold
  · exact hstays old hold
  · obtain ⟨m, hm, -⟩ := h.waiting c up List.mem_cons_self
    refine ⟨up, adopt (List.range' o.nodes.size c.kept.length) m, rfl, ?_, ?_, ?_⟩
    · exact Nat.lt_of_lt_of_le hup (Nat.le_add_right _ _)
    · rw [nodes_take_self hup]
      exact congrArg (Option.map _) hm
    · exact List.mem_append_right _ (number_mem_range' hk)

/-- The complaints about the node that was taken are noted; those about its kept children are
still to come. -/
theorem complained_take (h : Partway source root ⟨o, (c, up) :: rest⟩) :
    ((take source c up ⟨o, rest⟩).diagnostics.toList ++
        ((take source c up ⟨o, rest⟩).pending.map (·.1)).flatMap (complaints source)).Perm
      (((take source c up ⟨o, rest⟩).nodes.toList.map (·.handle)).flatMap
        (complaints source)) := by
  have hup := h.up_lt
  have hborn : (c.kept.reverse.flatMap (complaints source)).Perm
      (c.kept.flatMap (complaints source)) :=
    c.kept.reverse_perm.flatMap_right _
  have hbefore := h.complained.append_right (c.kept.flatMap (complaints source))
  rw [places_take hup, handles_take hup, List.flatMap_append, List.flatMap_append]
  -- The new nodes are pending in reverse, and stand behind all others among the nodes.
  refine List.Perm.trans ?_ hbefore
  rw [take_eq source c hup, Array.toList_append, List.map_cons, List.flatMap_cons]
  simp only [List.append_assoc]
  refine List.Perm.append_left _ (List.Perm.append_left _ ?_)
  exact (hborn.append_right _).trans List.perm_append_comm

/-- Taking a pending node keeps everything. -/
theorem take (h : Partway source root ⟨o, (c, up) :: rest⟩) :
    Partway source root (take source c up ⟨o, rest⟩) where
  first := h.first_take
  copied := h.copied_take
  distinct := h.distinct_take
  waiting := h.waiting_take
  settled := h.settled_take
  linked := h.linked_take
  complained := h.complained_take

/-- A run leaves an outline in which no node is pending. -/
theorem run {s : Conversion} (h : Partway source root s) :
    Partway source root ⟨run source s, []⟩ := by
  induction s using Conversion.run.induct source with
  | case1 o => rwa [Conversion.run]
  | case2 o c up rest ih =>
      rw [Conversion.run]
      exact ih h.take

end Partway

end Conversion

/-! ## Walking an outline -/

namespace Outline

variable {o : Outline} {source : ByteArray} {root : Node}

/-- The place that a node is for, by its number. -/
def place? (o : Outline) (number : Nat) : Option Cursor :=
  (o.nodes[number]?).map (·.handle)

/-- With some numbers on top of its stack, a walk goes through a list of numbers.  These are those
of the nodes for some places, and with each of them its children are among them. -/
structure Covers (o : Outline) (top numbers : List Nat) (places : List Cursor) : Prop where
  walked : ∀ fuel stack,
    o.walkFrom (numbers.length + fuel) (top ++ stack) = numbers ++ o.walkFrom fuel stack
  placed : numbers.map o.place? = places.map some
  starts : top ⊆ numbers
  closed : ∀ i ∈ numbers, o.childrenOf i ⊆ numbers

namespace Covers

variable {top top' numbers numbers' : List Nat} {places places' : List Cursor}

/-- No entries cover no places. -/
theorem nil (o : Outline) : o.Covers [] [] [] where
  walked fuel stack := by simp
  placed := rfl
  starts := List.Subset.refl _
  closed := by simp

/-- Two covers next to one another cover both lists of places. -/
theorem append (h : o.Covers top numbers places) (h' : o.Covers top' numbers' places') :
    o.Covers (top ++ top') (numbers ++ numbers') (places ++ places') where
  walked fuel stack := by
    rw [List.length_append, List.append_assoc, Nat.add_assoc, h.walked, h'.walked,
      List.append_assoc]
  placed := by rw [List.map_append, List.map_append, h.placed, h'.placed]
  starts := List.append_subset.2
    ⟨List.subset_append_of_subset_left _ h.starts, List.subset_append_of_subset_right _ h'.starts⟩
  closed i hi := by
    rcases List.mem_append.1 hi with hi | hi
    · exact fun j hj => List.mem_append_left _ (h.closed i hi hj)
    · exact fun j hj => List.mem_append_right _ (h'.closed i hi hj)

/-- A walk goes through a node and then through what its children lead to. -/
theorem node {i : Nat} {m : OutlineNode} (hm : o.nodes[i]? = some m)
    (h : o.Covers m.children numbers (m.handle.kept.flatMap Cursor.walk)) :
    o.Covers [i] (i :: numbers) m.handle.walk := by
  have hchildren : o.childrenOf i = m.children := by
    rw [childrenOf, hm]
    rfl
  refine ⟨fun fuel stack => ?_, ?_, by simp, fun j hj => ?_⟩
  · rw [List.length_cons, Nat.succ_add, List.singleton_append, walkFrom, hchildren, h.walked,
      List.cons_append]
  · have hplace : o.place? i = some m.handle := by rw [place?, hm, Option.map_some]
    rw [Cursor.walk_eq_along, Cursor.along_eq, List.map_cons, List.map_cons, hplace]
    exact congrArg _ h.placed
  · refine fun k hk => List.mem_cons_of_mem i ?_
    rcases List.mem_cons.1 hj with rfl | hj
    · exact h.starts (hchildren ▸ hk)
    · exact h.closed j hj hk

end Covers

open Conversion

/-- Of a finished outline, a walk from a node goes through the nodes for the outline from there
on. -/
theorem exists_covers (h : Partway source root ⟨o, []⟩) (c : Cursor) (i : Nat)
    (hi : o.place? i = some c) : ∃ numbers, o.Covers [i] numbers c.walk := by
  induction c using Cursor.child_induction generalizing i with
  | step c ih =>
      obtain ⟨m, hm, rfl⟩ := Option.map_eq_some_iff.1 hi
      -- The children go on the stack together; a walk finishes the first before the others.
      have hbelow : ∀ (top : List Nat) (places : List Cursor),
          List.Forall₂ (o.Heads i) top places → places ⊆ m.handle.children →
            ∃ numbers, o.Covers top numbers (places.flatMap Cursor.walk) := by
        intro top places hheads
        induction hheads with
        | nil => exact fun _ => ⟨[], .nil o⟩
        | cons hhead _ ihrest =>
            intro hsubset
            obtain ⟨n, hn, hhandle, -⟩ := hhead
            obtain ⟨hchild, hrest⟩ := List.cons_subset.1 hsubset
            obtain ⟨first, hfirst⟩ := ih _ hchild _ (Option.map_eq_some_iff.2 ⟨n, hn, hhandle⟩)
            obtain ⟨others, hothers⟩ := ihrest hrest
            exact ⟨first ++ others, hfirst.append hothers⟩
      obtain ⟨numbers, hnumbers⟩ := hbelow m.children m.handle.kept
        (h.settled i m hm List.not_mem_nil) (List.filter_subset_self _)
      exact ⟨i :: numbers, .node hm hnumbers⟩

section Finished

variable {numbers : List Nat}

/-- Every node of a finished outline is met, since its parent is. -/
theorem Covers.mem_of_lt {places : List Cursor} (hcovers : o.Covers [0] numbers places)
    (h : Partway source root ⟨o, []⟩) (i : Nat) (hi : i < o.nodes.size) : i ∈ numbers := by
  induction i using Nat.strong_induction_on with
  | _ i ih =>
      by_cases hzero : i = 0
      · exact hcovers.starts (by simp [hzero])
      · obtain ⟨p, above, -, hlt, hp, hmem⟩ := h.linked i _ (Array.getElem?_eq_getElem hi) hzero
        refine hcovers.closed p (ih p hlt (hlt.trans hi)) ?_
        rw [childrenOf, hp]
        exact hmem

/-- Every number of a cover is that of an entry. -/
theorem Covers.lt_of_mem {top : List Nat} {places : List Cursor}
    (hcovers : o.Covers top numbers places) {i : Nat} (hi : i ∈ numbers) : i < o.nodes.size := by
  have hplace : o.place? i ∈ places.map some := hcovers.placed ▸ List.mem_map_of_mem hi
  obtain ⟨c, -, hc⟩ := List.mem_map.1 hplace
  obtain ⟨m, hm, -⟩ := Option.map_eq_some_iff.1 hc.symm
  exact (Array.getElem?_eq_some_iff.1 hm).1

/-- Distinct places are covered by distinct numbers. -/
theorem Covers.nodup {top : List Nat} {places : List Cursor}
    (hcovers : o.Covers top numbers places) (hplaces : places.Nodup) : numbers.Nodup := by
  refine List.Nodup.of_map o.place? ?_
  rw [hcovers.placed]
  exact hplaces.map fun _ _ => Option.some.inj

/-- When nothing waits any more, the first entry covers the walk through the tree. -/
theorem exists_root_covers (h : Partway source root ⟨o, []⟩) :
    ∃ numbers, o.Covers [0] numbers (Cursor.root root).walk := by
  obtain ⟨m, hm, hhandle, -⟩ := h.first
  exact exists_covers h _ 0 (Option.map_eq_some_iff.2 ⟨m, hm, hhandle⟩)

/-- The numbers of that cover are all the numbers of the outline. -/
theorem perm_range_of_covers (h : Partway source root ⟨o, []⟩)
    (hcovers : o.Covers [0] numbers (Cursor.root root).walk) :
    numbers.Perm (List.range o.nodes.size) := by
  have hnodup : numbers.Nodup := hcovers.nodup (Cursor.nodup_along _ _)
  refine (List.perm_ext_iff_of_nodup hnodup List.nodup_range).2 fun i => ?_
  rw [List.mem_range]
  exact ⟨hcovers.lt_of_mem, hcovers.mem_of_lt h i⟩

/-- The walk through the outline visits the numbers of that cover in order. -/
theorem walk_eq_of_covers (h : Partway source root ⟨o, []⟩)
    (hcovers : o.Covers [0] numbers (Cursor.root root).walk) : o.walk = numbers := by
  have hlength : numbers.length = o.nodes.size := by
    simpa using (perm_range_of_covers h hcovers).length_eq
  have hwalked := hcovers.walked 0 []
  rw [List.append_nil, Nat.add_zero, hlength] at hwalked
  rw [walk, hwalked, walkFrom, List.append_nil]

end Finished

/-! ## The outline of a tree -/

/-- The finished outline satisfies the invariant, with nothing left to take. -/
theorem partway_ofTree (source : ByteArray) (root : Node) :
    Partway source root ⟨ofTree source root, []⟩ :=
  (partway_start source root).run

/-- The walk through the finished outline covers the walk through the tree. -/
theorem covers_walk_ofTree (source : ByteArray) (root : Node) :
    (ofTree source root).Covers [0] (ofTree source root).walk (Cursor.root root).walk := by
  have hpartway := partway_ofTree source root
  obtain ⟨numbers, hcovers⟩ := exists_root_covers hpartway
  rwa [walk_eq_of_covers hpartway hcovers]

/-- A walk meets every node once. -/
theorem walk_ofTree_perm (source : ByteArray) (root : Node) :
    (ofTree source root).walk.Perm (List.range (ofTree source root).nodes.size) :=
  perm_range_of_covers (partway_ofTree source root) (covers_walk_ofTree source root)

/-- A partial map that is defined everywhere drops nothing. -/
theorem filterMap_eq_of_map_eq {α β : Type} {f : α → Option β} {xs : List α} {ys : List β}
    (h : xs.map f = ys.map some) : xs.filterMap f = ys := by
  have hfilter : xs.filterMap f = (xs.map f).filterMap id := by
    rw [List.filterMap_map]
    rfl
  rw [hfilter, h, List.filterMap_map]
  exact List.filterMap_some

/-- The entries that the walk visits are the nodes of the tree, in the same order. -/
theorem map_handle_walkNodes (source : ByteArray) (root : Node) :
    (ofTree source root).walkNodes.map (·.handle) = (Cursor.root root).walk := by
  rw [walkNodes, List.map_filterMap]
  exact filterMap_eq_of_map_eq (covers_walk_ofTree source root).placed

end Outline

/-- A walk of a document meets the outline of its tree in pre-order. -/
theorem Document.walk_eq (d : Document) : d.walk = (Cursor.root d.root).walk :=
  Outline.map_handle_walkNodes d.source d.root

end Syntax
end CrossAudit
