import CrossAudit.Proofs.Syntax.Places
import Mathlib.Data.List.Count

/-!
# The outline of a tree is faithful

`Outline.Faithful` says what the outline of a tree has to be.  Its nodes are the kept places of the
tree, one node each; a walk meets them in pre-order; each is a copy of its place and is linked to
the node of the place above; and the complaints are those about error marks of kept places and
about missing children of kept places, one each.

Main results:

- Theorem `Outline.faithful_ofTree`: the outline of every tree is faithful.
- Theorem `Document.ofParse_faithful`: so is that of a parsed file, and it has the locations of its
  byte ranges.
-/

namespace CrossAudit
namespace Syntax

/-- An outline is that of a tree. -/
structure Outline.Faithful (source : ByteArray) (root : Node) (o : Outline) : Prop where
  /-- Every kept place has exactly one node. -/
  once : ∀ c, Cursor.Kept root c → ∃! i, o.place? i = some c
  /-- Every node is for a kept place. -/
  kept : ∀ i c, o.place? i = some c → Cursor.Kept root c
  /-- A walk meets every node exactly once. -/
  walked : o.walk.Perm (List.range o.nodes.size)
  /-- A walk goes in pre-order of the tree. -/
  preorder : (o.walkNodes.map (·.handle)).Pairwise Cursor.Precedes
  /-- A node is a copy of its place. -/
  copied : ∀ m ∈ o.nodes, m.kind = m.handle.node.info.kind ∧ m.first = m.handle.node.info.first ∧
    m.last = m.handle.node.info.last ∧ m.location = m.handle.node.info.location
  /-- Every node belongs to the outline. -/
  owned : ∀ m ∈ o.nodes, m.owned = true
  /-- The root has no parent. -/
  first : ∃ m, o.nodes[0]? = some m ∧ m.handle = .root root ∧ m.parent = none
  /-- Any other node is listed once by its parent, the node for the place above. -/
  listed : ∀ (i : Nat) (m : OutlineNode), o.nodes[i]? = some m → i ≠ 0 →
    ∃ p above, m.parent = some p ∧ o.nodes[p]? = some above ∧
      m.handle.parent? = some above.handle ∧ above.children.count i = 1
  /-- The children of a node are the nodes for the kept children of its place, in order. -/
  children : ∀ (i : Nat) (m : OutlineNode), o.nodes[i]? = some m →
    m.children.map o.place? = m.handle.kept.map some
  /-- There is one complaint for each kept place with an error mark and one for each missing child
  of a kept place. -/
  complained : o.diagnostics.toList.Perm
    (((o.walkNodes.map (·.handle)).filter (·.node.info.broken)).map (.ofBroken source ·.node.info) ++
      ((o.walkNodes.map (·.handle)).flatMap fun c => c.children.filter (·.node.info.missing)).map
        (.ofMissing ·.node.info))

namespace Outline

open Conversion OutlineNode

variable {o : Outline} {source : ByteArray} {root : Node}

/-- The numbers of an outline stand for the places that they head. -/
theorem map_place?_of_heads {i : Nat} {numbers : List Nat} {places : List Cursor}
    (h : List.Forall₂ (o.Heads i) numbers places) : numbers.map o.place? = places.map some := by
  induction h with
  | nil => rfl
  | cons hhead _ ih =>
      obtain ⟨m, hm, rfl, -⟩ := hhead
      rw [List.map_cons, List.map_cons, ih, place?, hm, Option.map_some]

/-- The walk visits every number that stands for a place. -/
theorem mem_walk_of_place? {i : Nat} {c : Cursor}
    (h : (ofTree source root).place? i = some c) : i ∈ (ofTree source root).walk := by
  obtain ⟨m, hm, -⟩ := Option.map_eq_some_iff.1 h
  exact (covers_walk_ofTree source root).mem_of_lt (partway_ofTree source root) i
    (Array.getElem?_eq_some_iff.1 hm).1

/-- Two nodes of the outline of a tree are for different places. -/
theorem place?_inj {i j : Nat} {c : Cursor} (hi : (ofTree source root).place? i = some c)
    (hj : (ofTree source root).place? j = some c) : i = j := by
  have hplaces : ((ofTree source root).walk.map (ofTree source root).place?).Nodup := by
    rw [(covers_walk_ofTree source root).placed]
    exact (Cursor.nodup_along _ _).map fun _ _ => Option.some.inj
  exact List.inj_on_of_nodup_map hplaces (mem_walk_of_place? hi) (mem_walk_of_place? hj)
    (hi.trans hj.symm)

/-- The places that numbers stand for are the kept ones. -/
theorem exists_place?_iff {c : Cursor} :
    (∃ i, (ofTree source root).place? i = some c) ↔ Cursor.Kept root c := by
  have hplaced := (covers_walk_ofTree source root).placed
  rw [← Cursor.mem_walk_root_iff]
  constructor
  · rintro ⟨i, hi⟩
    have hplace : (ofTree source root).place? i ∈ (Cursor.root root).walk.map some :=
      hplaced ▸ List.mem_map_of_mem (mem_walk_of_place? hi)
    rw [hi] at hplace
    exact (List.mem_map_of_injective fun _ _ => Option.some.inj).1 hplace
  · intro hc
    have hplace : some c ∈ (ofTree source root).walk.map (ofTree source root).place? :=
      hplaced ▸ List.mem_map_of_mem hc
    obtain ⟨i, -, hi⟩ := List.mem_map.1 hplace
    exact ⟨i, hi⟩

/-- The children of an entry stand for the kept children of its node, in order. -/
theorem map_place?_children (source : ByteArray) (root : Node) (i : Nat) (m : OutlineNode)
    (hm : (ofTree source root).nodes[i]? = some m) :
    m.children.map (ofTree source root).place? = m.handle.kept.map some :=
  map_place?_of_heads ((partway_ofTree source root).settled i m hm List.not_mem_nil)

/-- No entry has a child twice. -/
theorem nodup_children (source : ByteArray) (root : Node) {i : Nat} {m : OutlineNode}
    (hm : (ofTree source root).nodes[i]? = some m) : m.children.Nodup := by
  refine List.Nodup.of_map (ofTree source root).place? ?_
  rw [map_place?_children source root i m hm]
  exact (m.handle.nodup_children.filter _).map fun _ _ => Option.some.inj

/-- A node that another one lists is for a child of the other's place. -/
theorem parent?_of_mem_children {p i : Nat} {above m : OutlineNode}
    (hp : (ofTree source root).nodes[p]? = some above)
    (hm : (ofTree source root).nodes[i]? = some m) (hi : i ∈ above.children) :
    m.handle.parent? = some above.handle := by
  have hplace : some m.handle ∈ above.handle.kept.map some := by
    rw [← map_place?_children source root p above hp]
    exact List.mem_map.2 ⟨i, hi, by rw [place?, hm, Option.map_some]⟩
  have hkept : m.handle ∈ above.handle.kept :=
    (List.mem_map_of_injective fun _ _ => Option.some.inj).1 hplace
  exact Cursor.parent?_of_mem_children (List.mem_filter.1 hkept).1

/-- Every entry but the first is listed once, by the entry of its parent. -/
theorem listed_ofTree (source : ByteArray) (root : Node) (i : Nat) (m : OutlineNode)
    (hm : (ofTree source root).nodes[i]? = some m) (hi : i ≠ 0) :
    ∃ p above, m.parent = some p ∧ (ofTree source root).nodes[p]? = some above ∧
      m.handle.parent? = some above.handle ∧ above.children.count i = 1 := by
  obtain ⟨p, above, hparent, -, hp, hmem⟩ := (partway_ofTree source root).linked i m hm hi
  exact ⟨p, above, hparent, hp, parent?_of_mem_children hp hm hmem,
    List.count_eq_one_of_mem (nodup_children source root hp) hmem⟩

/-- All entries of an array are found under their indices. -/
theorem filterMap_range {α : Type} (xs : Array α) :
    (List.range xs.size).filterMap (xs[·]?) = xs.toList :=
  filterMap_eq_of_map_eq (List.ext_getElem (by simp) fun i _ _ => by simp)

/-- The walk through an outline visits every entry once. -/
theorem walkNodes_perm (source : ByteArray) (root : Node) :
    (ofTree source root).walkNodes.Perm (ofTree source root).nodes.toList := by
  rw [← filterMap_range]
  exact (walk_ofTree_perm source root).filterMap _

/-- Broken nodes give one diagnostic each, others none. -/
theorem flatMap_broken (source : ByteArray) (places : List Cursor) :
    (places.flatMap fun c =>
      if c.node.info.broken then [Diagnostic.ofBroken source c.node.info] else []) =
      (places.filter (·.node.info.broken)).map (.ofBroken source ·.node.info) := by
  induction places with
  | nil => rfl
  | cons c places ih =>
      rw [List.flatMap_cons, ih, List.filter_cons]
      split <;> rfl

/-- The diagnostics are those of the broken nodes and of the missing ones. -/
theorem complained_ofTree (source : ByteArray) (root : Node) :
    (ofTree source root).diagnostics.toList.Perm
      ((((ofTree source root).walkNodes.map (·.handle)).filter (·.node.info.broken)).map
          (.ofBroken source ·.node.info) ++
        (((ofTree source root).walkNodes.map (·.handle)).flatMap fun c =>
          c.children.filter (·.node.info.missing)).map (.ofMissing ·.node.info)) := by
  have hnoted := (partway_ofTree source root).complained
  rw [List.map_nil, List.flatMap_nil, List.append_nil] at hnoted
  have hwalked := ((walkNodes_perm source root).map (·.handle)).flatMap_right (complaints source)
  refine hnoted.trans (hwalked.symm.trans ?_)
  refine (List.flatMap_append_perm _ _ _).symm.trans ?_
  rw [List.map_flatMap, flatMap_broken]

/-- The outline of a tree is faithful to it. -/
theorem faithful_ofTree (source : ByteArray) (root : Node) :
    (ofTree source root).Faithful source root where
  once c hc := by
    obtain ⟨i, hi⟩ := exists_place?_iff.2 hc
    exact ⟨i, hi, fun j hj => place?_inj hj hi⟩
  kept i c hi := exists_place?_iff.1 ⟨i, hi⟩
  walked := walk_ofTree_perm source root
  preorder := by
    rw [map_handle_walkNodes]
    exact Cursor.pairwise_precedes_along _ _
  copied m hm := by
    obtain ⟨i, hi⟩ := Array.mem_iff_getElem?.1 hm
    rw [(partway_ofTree source root).copied i m hi]
    exact ⟨rfl, rfl, rfl, rfl⟩
  owned m hm := by
    obtain ⟨i, hi⟩ := Array.mem_iff_getElem?.1 hm
    rw [(partway_ofTree source root).copied i m hi]
  first := (partway_ofTree source root).first
  listed := listed_ofTree source root
  children := map_place?_children source root
  complained := complained_ofTree source root

end Outline

/-- The outline of a parsed file is that of its tree, with the complaints of the document; and if
the tree was listed with the file, every node is at the lines and columns of its byte range. -/
theorem Document.ofParse_faithful (language path : String) (source : ByteArray) (root : Node) :
    let d := Document.ofParse language path source (.ok root)
    d.outline.Faithful source root ∧ d.diagnostics = d.outline.diagnostics.toList ∧
      ∀ j, Snapshot.treeOf j source = some root → ∀ m ∈ d.outline.nodes,
        m.location.start.IsAt source.toList m.first ∧
          m.location.stop.IsAt source.toList m.last := by
  have hfaithful := Outline.faithful_ofTree source root
  refine ⟨hfaithful, rfl, fun j hj m hm => ?_⟩
  obtain ⟨i, hi⟩ := Array.mem_iff_getElem?.1 hm
  obtain ⟨-, hfirst, hlast, hlocation⟩ := hfaithful.copied m hm
  have hkept : Cursor.Kept root m.handle :=
    hfaithful.kept i m.handle (Option.map_eq_some_iff.2 ⟨m, hi, rfl⟩)
  have hlocated : m.handle.node.info.Located source.toList :=
    (Snapshot.located_treeOf hj).of_mem_scan (Cursor.mem_walk_root_iff.2 hkept)
  rw [hfirst, hlast, hlocation]
  exact hlocated

/-- A call whose closing bracket is missing, with its argument on a second line. -/
def openCall : ByteArray :=
  ⟨#[102, 40, 10, 120]⟩

/-- The listed tree of `openCall`. -/
def openCallTree : Json :=
  .obj [("tree", .arr
    [.arr [.int (-1), .str "module", .int 0, .int 4, .int 1],
     .arr [.int 0, .str "ERROR", .int 0, .int 4, .int 5],
     .arr [.int 1, .str "(", .int 1, .int 2, .int 0],
     .arr [.int 1, .str "identifier", .int 3, .int 4, .int 1],
     .arr [.int 1, .str ")", .int 4, .int 4, .int 2]])]

/-- A call whose bracket is not closed: its document, the missing node and the diagnostic. -/
theorem Document.ofParse_faithful_openCall :
    ∃ root, Snapshot.treeOf openCallTree openCall = some root ∧
      (let d := Document.ofParse "python" "call.py" openCall (.ok root)
      d.diagnostics.map (·.kind) = ["syntax-error", "missing-node"] ∧
        ∀ m ∈ d.outline.nodes, m.location.start.IsAt openCall.toList m.first ∧
          m.location.stop.IsAt openCall.toList m.last) := by
  have hkinds : (Snapshot.treeOf openCallTree openCall).map (fun root =>
      (Document.ofParse "python" "call.py" openCall (.ok root)).diagnostics.map (·.kind)) =
      some ["syntax-error", "missing-node"] := by
    decide +kernel
  obtain ⟨root, hroot, hkinds⟩ := Option.map_eq_some_iff.1 hkinds
  have hfaithful := Document.ofParse_faithful "python" "call.py" openCall root
  exact ⟨root, hroot, hkinds, hfaithful.2.2 openCallTree hroot⟩

end Syntax
end CrossAudit
