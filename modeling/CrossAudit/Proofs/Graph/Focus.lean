import CrossAudit.Proofs.Graph.Ball
import CrossAudit.Proofs.Graph.Reading
import CrossAudit.Proofs.Text.Occurrence

/-!
# Focused exports

An export that is focused on a text shows the nodes that mention it, the edges at them, and the
nodes at the other ends of these edges.  The nodes are found by their ids, the edges by the ids at
their ends; in a graph that was built, ids tell nodes apart and edges join nodes, so the two
selections fit together.

Main results:

- Theorem `focused_eq_whole`: without a focus, and without a node that mentions it, all is shown.
- Theorem `edges_focused`, `nodes_focused`: what is shown otherwise.
- Theorem `perm_declared`: the document of a graph declares the nodes that are shown.
- Theorem `focused_build_exact`: focused exports of a graph that was built.
-/

namespace CrossAudit
namespace Graph

/-! ## What is shown -/

/-- A node's id or name contains a text. -/
def Node.Mentions (n : Node) (text : String) : Prop :=
  text.toList <:+: n.id.toList ∨ text.toList <:+: n.name.toList

/-- An edge begins or ends at one of some nodes. -/
def Edge.Touches (e : Edge) (nodes : List Node) : Prop :=
  ∃ n ∈ nodes, e.source = n.id ∨ e.target = n.id

/-- A node is an end of one of some edges. -/
def Node.IsEnd (n : Node) (edges : List Edge) : Prop :=
  ∃ e ∈ edges, n.id = e.source ∨ n.id = e.target

theorem Node.mentions_iff {n : Node} {text : String} : n.mentions text = true ↔ n.Mentions text := by
  simp [Node.mentions, Node.Mentions, Text.contains, Chars.occursIn_iff]

variable {g : Graph} {text : String}

open Classical in
theorem mentioning_eq (g : Graph) (text : String) :
    mentioning g text = (g.nodes.filter fun n => n.Mentions text).map (·.id) := by
  have hsame : (g.nodes.filter fun n => n.mentions text) = g.nodes.filter fun n => n.Mentions text :=
    List.filter_congr fun n _ => by rw [Bool.eq_iff_iff, Node.mentions_iff, decide_eq_true_iff]
  rw [mentioning, hsame]

theorem mentioning_eq_nil_iff : mentioning g text = [] ↔ ∀ n ∈ g.nodes, ¬ n.Mentions text := by
  simp [mentioning_eq, List.filter_eq_nil_iff]

/-- The names that mention a text are those of the nodes that do. -/
theorem mem_mentioning_iff {id : String} :
    id ∈ mentioning g text ↔ ∃ n ∈ g.nodes, n.Mentions text ∧ n.id = id := by
  simp [mentioning_eq, and_assoc]

/-- In a graph with distinct ids, a node is found by its id. -/
theorem id_mem_mentioning_iff (hids : g.ids.Nodup) {n : Node} (hn : n ∈ g.nodes) :
    n.id ∈ mentioning g text ↔ n.Mentions text := by
  rw [mem_mentioning_iff]
  constructor
  · rintro ⟨m, hm, hmentions, hid⟩
    rwa [List.inj_on_of_nodup_map hids hm hn hid] at hmentions
  · exact fun h => ⟨n, hn, h, rfl⟩

/-- Without a focus, and without a node that mentions it, all is shown. -/
theorem focused_eq_whole (h : text = "" ∨ ∀ n ∈ g.nodes, ¬ n.Mentions text) :
    focused g text = (g.nodes, g.edges) := by
  have hnone : (text == "" || (mentioning g text).isEmpty) = true := by
    rwa [Bool.or_eq_true, beq_iff_eq, List.isEmpty_iff, mentioning_eq_nil_iff]
  simp [focused, hnone]

/-- A focus that some node mentions narrows what is shown. -/
theorem narrows_of_mentions (htext : text ≠ "") (hsome : ∃ n ∈ g.nodes, n.Mentions text) :
    (text == "" || (mentioning g text).isEmpty) = false := by
  rw [Bool.or_eq_false_iff, beq_eq_false_iff_ne, ← Bool.not_eq_true, List.isEmpty_iff,
    mentioning_eq_nil_iff]
  obtain ⟨n, hn, hmentions⟩ := hsome
  exact ⟨htext, fun h => h n hn hmentions⟩

open Classical in
/-- The edges in focus are those with an end at a node that mentions the text. -/
theorem edges_focused (htext : text ≠ "") (hsome : ∃ n ∈ g.nodes, n.Mentions text) :
    (focused g text).2 =
      g.edges.filter fun e => e.Touches (g.nodes.filter fun n => n.Mentions text) := by
  simp only [focused, narrows_of_mentions htext hsome, Bool.false_eq_true, if_false]
  refine List.filter_congr fun e _ => ?_
  rw [Bool.eq_iff_iff, decide_eq_true_iff]
  simp only [mentioning_eq, Bool.or_eq_true, List.contains_iff_mem, List.mem_map, Edge.Touches,
    eq_comm (a := e.source), eq_comm (a := e.target), and_or_left, exists_or]

open Classical in
/-- The nodes in focus are those that mention the text, and the ends of the edges in focus. -/
theorem nodes_focused (hids : g.ids.Nodup) (htext : text ≠ "")
    (hsome : ∃ n ∈ g.nodes, n.Mentions text) :
    (focused g text).1 = g.nodes.filter fun n => n.Mentions text ∨ n.IsEnd (focused g text).2 := by
  have hkept : ∀ n ∈ g.nodes, ∀ edges : List Edge,
      n.id ∈ mentioning g text ++ edges.flatMap (fun e => [e.source, e.target]) ↔
        n.Mentions text ∨ n.IsEnd edges := by
    intro n hn edges
    rw [List.mem_append, id_mem_mentioning_iff hids hn]
    simp [Node.IsEnd]
  simp only [focused, narrows_of_mentions htext hsome, Bool.false_eq_true, if_false]
  refine List.filter_congr fun n hn => ?_
  rw [Bool.eq_iff_iff, List.contains_iff_mem, decide_eq_true_iff]
  exact hkept n hn _

/-! ## What belongs together -/

theorem nodes_focused_sublist (g : Graph) (text : String) :
    (focused g text).1.Sublist g.nodes := by
  unfold focused
  dsimp only
  split
  · exact List.Sublist.refl _
  · exact List.filter_sublist

theorem edges_focused_sublist (g : Graph) (text : String) :
    (focused g text).2.Sublist g.edges := by
  unfold focused
  dsimp only
  split
  · exact List.Sublist.refl _
  · exact List.filter_sublist

theorem nodup_ids_focused (hids : g.ids.Nodup) (text : String) :
    ((focused g text).1.map (·.id)).Nodup :=
  hids.sublist ((nodes_focused_sublist g text).map _)

open Classical in
/-- A node at the end of a shown edge is shown. -/
theorem mem_nodes_focused_of_isEnd (hids : g.ids.Nodup) {n : Node} (hn : n ∈ g.nodes)
    (hend : n.IsEnd (focused g text).2) : n ∈ (focused g text).1 := by
  by_cases hwhole : text = "" ∨ ∀ n ∈ g.nodes, ¬ n.Mentions text
  · rw [focused_eq_whole hwhole]
    exact hn
  · push Not at hwhole
    rw [nodes_focused hids hwhole.1 hwhole.2, List.mem_filter, decide_eq_true_iff]
    exact ⟨hn, Or.inr hend⟩

/-- An id of a node that is shown names just this one. -/
theorem existsUnique_shown (hids : g.ids.Nodup) {id : String}
    (hid : id ∈ (focused g text).1.map (·.id)) : ∃! n, n ∈ (focused g text).1 ∧ n.id = id := by
  obtain ⟨n, hn, rfl⟩ := List.mem_map.1 hid
  refine ⟨n, ⟨hn, rfl⟩, fun m hm => ?_⟩
  exact List.inj_on_of_nodup_map (nodup_ids_focused hids text) hm.1 hn hm.2

/-- A shown edge joins shown nodes. -/
theorem ends_focused (hclosed : g.Closed) (hids : g.ids.Nodup) {e : Edge}
    (he : e ∈ (focused g text).2) :
    e.source ∈ (focused g text).1.map (·.id) ∧ e.target ∈ (focused g text).1.map (·.id) := by
  obtain ⟨hsource, htarget⟩ := hclosed e ((edges_focused_sublist g text).subset he)
  obtain ⟨n, hn, hnid⟩ := List.mem_map.1 hsource
  obtain ⟨m, hm, hmid⟩ := List.mem_map.1 htarget
  have hnend : n.IsEnd (focused g text).2 := ⟨e, he, Or.inl hnid⟩
  have hmend : m.IsEnd (focused g text).2 := ⟨e, he, Or.inr hmid⟩
  exact ⟨List.mem_map.2 ⟨n, mem_nodes_focused_of_isEnd hids hn hnend, hnid⟩,
    List.mem_map.2 ⟨m, mem_nodes_focused_of_isEnd hids hm hmend, hmid⟩⟩

/-! ## What is declared -/

namespace Dot

/-- Clusters lose no node and repeat none. -/
theorem perm_flatMap_clusters (nodes : List Node) :
    ((clusters nodes).flatMap (·.2)).Perm nodes := by
  have hgroups := Assoc.perm_items_group (fun n => some (clusterOf n)) nodes
  simp only [Option.isSome_some, List.filter_true] at hgroups
  exact ((List.mergeSort_perm _ _).flatMap_right _).trans hgroups

/-- The blocks of a graph's document declare its nodes. -/
theorem perm_declared (nodes : List Node) (edges : List Edge) :
    ((blocksOf nodes edges).flatMap (·.nodes)).Perm (nodes.map (·.id)) := by
  have hclusters : (blocksOf nodes edges).flatMap (·.nodes) =
      ((clusters nodes).flatMap (·.2)).map (·.id) := by
    simp [blocksOf, clusters_eq, List.flatMap_map, List.map_flatMap]
  rw [hclusters]
  exact (perm_flatMap_clusters nodes).map _

/-- A node is declared in the block of its cluster. -/
theorem exists_declaring {nodes : List Node} {n : Node} (hn : n ∈ nodes) (edges : List Edge) :
    ∃ b ∈ blocksOf nodes edges, b.label = some (clusterOf n) ∧ n.id ∈ b.nodes := by
  refine ⟨_, List.mem_append_left _ (List.mem_map_of_mem (mem_labels_iff.2 ⟨n, hn, rfl⟩)), rfl, ?_⟩
  exact List.mem_map_of_mem (List.mem_filter.2 ⟨hn, by simp⟩)

/-- What blocks declare without repetition, one block declares. -/
theorem eq_of_declared {blocks : List Block} (h : (blocks.flatMap (·.nodes)).Nodup) {b b' : Block}
    {id : String} (hb : b ∈ blocks) (hb' : b' ∈ blocks) (hid : id ∈ b.nodes)
    (hid' : id ∈ b'.nodes) : b' = b := by
  by_contra hne
  have hsymm : Std.Symm (Function.onFun List.Disjoint fun b : Block => b.nodes) :=
    ⟨fun _ _ hapart => hapart.symm⟩
  exact (List.nodup_flatMap.1 h).2.forall hb' hb hne hid' hid

end Dot

/-! ## Graphs that were built -/

open Classical in
/-- A focused export of a graph that was built is closed and exact.  Without a focus, or a node that
mentions it, the whole graph is shown; otherwise the edges at a node that mentions it, and these
nodes with the ends of these edges.  Every edge that is shown joins two nodes that are shown, and
the document in the DOT language declares each node that is shown once, in the block of its cluster
and in no other. -/
theorem focused_build_exact (o : Options) (entities : List Entity) (references : List Reference)
    (focus : String) (hdistinct : (entities.map (·.id)).Nodup) :
    let g := build o entities references
    let shown := focused g focus
    (focus = "" ∨ (∀ n ∈ g.nodes, ¬ n.Mentions focus) → shown = (g.nodes, g.edges)) ∧
    (focus ≠ "" ∧ (∃ n ∈ g.nodes, n.Mentions focus) →
      shown.2 = (g.edges.filter fun e => e.Touches (g.nodes.filter fun n => n.Mentions focus)) ∧
      shown.1 = g.nodes.filter fun n => n.Mentions focus ∨ n.IsEnd shown.2) ∧
    (∀ e ∈ shown.2, (∃! n, n ∈ shown.1 ∧ n.id = e.source) ∧
      ∃! n, n ∈ shown.1 ∧ n.id = e.target) ∧
    ∃ blocks, Dot.blocks? (Dot.render g focus) = some blocks ∧
      (blocks.flatMap (·.nodes)).Perm (shown.1.map (·.id)) ∧ (shown.1.map (·.id)).Nodup ∧
      blocks.flatMap (·.edges) = shown.2.map (fun e => (e.source, e.target)) ∧
      ∀ n ∈ shown.1, ∃ b ∈ blocks, b.label = some (Dot.clusterOf n) ∧ n.id ∈ b.nodes ∧
        ∀ b' ∈ blocks, n.id ∈ b'.nodes → b' = b := by
  intro g shown
  have hclosed : g.Closed := closed_build o entities references
  have hids : g.ids.Nodup := (depicts_build o references hdistinct).nodes_once
  have hshown : (shown.1.map (·.id)).Nodup := nodup_ids_focused hids focus
  have hdeclared : ((Dot.blocksOf shown.1 shown.2).flatMap (·.nodes)).Perm (shown.1.map (·.id)) :=
    Dot.perm_declared shown.1 shown.2
  refine ⟨focused_eq_whole, fun h => ⟨edges_focused h.1 h.2, nodes_focused hids h.1 h.2⟩,
    fun e he => ?_, Dot.blocksOf shown.1 shown.2, Dot.blocks?_render g focus, hdeclared, hshown,
    ?_, fun n hn => ?_⟩
  · obtain ⟨hsource, htarget⟩ := ends_focused hclosed hids he
    exact ⟨existsUnique_shown hids hsource, existsUnique_shown hids htarget⟩
  · simp [Dot.blocksOf, List.flatMap_map]
  · obtain ⟨b, hb, hlabel, hid⟩ := Dot.exists_declaring hn shown.2
    refine ⟨b, hb, hlabel, hid, fun b' hb' hid' => ?_⟩
    exact Dot.eq_of_declared (hdeclared.nodup_iff.2 hshown) hb hb' hid hid'

/-- Of four functions, one that is named with quotation marks is in focus; it is called by one that
is named with a backslash, and calls another. -/
theorem focused_build_exact_marked :
    let g := build {} [functionNamed "a\\", functionNamed "\"b\"", functionNamed "c",
        functionNamed "d"]
      [callBetween "a\\" "\"b\"", callBetween "c" "d", callBetween "\"b\"" "c"]
    (focused g "b").1.map (·.id) = ["a\\", "\"b\"", "c"] ∧ (focused g "b").2.length = 2 ∧
      (∀ e ∈ (focused g "b").2, ∃! n, n ∈ (focused g "b").1 ∧ n.id = e.target) ∧
      ∃ blocks, Dot.blocks? (Dot.render g "b") = some blocks ∧
        (blocks.flatMap (·.nodes)).Perm ["a\\", "\"b\"", "c"] := by
  intro g
  have hids : (focused g "b").1.map (·.id) = ["a\\", "\"b\"", "c"] := by decide +kernel
  obtain ⟨-, -, hends, blocks, hblocks, hperm, -⟩ :=
    focused_build_exact {} [functionNamed "a\\", functionNamed "\"b\"", functionNamed "c",
        functionNamed "d"]
      [callBetween "a\\" "\"b\"", callBetween "c" "d", callBetween "\"b\"" "c"] "b" (by decide)
  exact ⟨hids, by decide +kernel, fun e he => (hends e he).2, blocks, hblocks, hids ▸ hperm⟩

end Graph
end CrossAudit
