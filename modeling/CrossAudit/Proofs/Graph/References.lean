import CrossAudit.Proofs.Audit.Phase
import CrossAudit.Proofs.Graph.Order
import CrossAudit.Proofs.Reference.Build

/-!
# References become edges

References are filtered twice: when they are built, by the greatest confidence for each two ends and
kind, and when they become edges, by their ends and by what came first.  The second filter drops
nothing that the first one left, since what is left has distinct keys and has its ends among the
entities.

Main results:

- Theorem `edgesAmong_eq_map`: references with distinct keys whose ends are nodes become edges one
  by one.
- Theorem `map_nodeOf_eq_of_noted`: calls that are noted on entities do not show in their nodes.
- Theorem `build_carries`: the graph of entities and of the references that are built from them has
  a node for each entity and an edge for each reference.
-/

namespace CrossAudit

/-! ## References that are built -/

namespace Reference

variable {entities after : List Entity} {refs : List Reference} {r : Reference}

/-- A number above zero and at most one. -/
def IsLikelihood (c : Binary64) : Prop :=
  ∃ q, c.value? = some q ∧ 0 < q ∧ q ≤ 1

theorem isLikelihood_of_mem_confidences {c : Binary64} (h : c ∈ confidences) : IsLikelihood c := by
  have hall : ∀ c ∈ confidences, c.value?.any (fun q => decide (0 < q ∧ q ≤ 1)) = true := by
    decide +kernel
  have hc := hall c h
  cases hvalue : c.value? with
  | none => simp [hvalue] at hc
  | some q =>
      rw [hvalue, Option.any_some] at hc
      exact ⟨q, hvalue, of_decide_eq_true hc⟩

/-- What is built is inferred. -/
theorem produced_of_mem_build (h : build entities = .ok (refs, after)) (hr : r ∈ refs) :
    Produced entities r := by
  rcases exists_inferred_of_build h with ⟨rs, hrs, rfl⟩
  exact (mem_inferred_iff hrs).1 (mem_of_mem_strongest hr)

theorem isLikelihood_of_mem_build (h : build entities = .ok (refs, after)) (hr : r ∈ refs) :
    IsLikelihood r.confidence := by
  rcases (produced_of_mem_build h hr).exists_joins with ⟨_, _, hjoins⟩
  exact isLikelihood_of_mem_confidences hjoins.confidence_mem

theorem nodup_keys_build (h : build entities = .ok (refs, after)) : (refs.map key).Nodup := by
  rcases exists_inferred_of_build h with ⟨rs, _, rfl⟩
  exact nodup_keys_strongest rs

/-- The ends of what is built are entities. -/
theorem ends_of_mem_build (h : build entities = .ok (refs, after)) (hr : r ∈ refs) :
    r.sourceId ∈ entities.map (·.id) ∧ r.targetId ∈ entities.map (·.id) := by
  rcases (produced_of_mem_build h hr).exists_joins with
    ⟨_, _, source, hsource, target, htarget, _, _, _, _, rfl, _⟩
  exact ⟨List.mem_map_of_mem hsource, List.mem_map_of_mem htarget⟩

end Reference

namespace Graph

variable {entities after : List Entity} {refs : List Reference}

/-! ## Edges -/

/-- Edges with distinct keys are all added, in their order. -/
theorem foldl_addEdge_eq_append {added edges : List Edge}
    (h : ((edges ++ added).map Edge.key).Nodup) : added.foldl addEdge edges = edges ++ added := by
  induction added generalizing edges with
  | nil => simp
  | cons e rest ih =>
      have hnew : e.key ∉ edges.map Edge.key := by
        rw [List.map_append, List.nodup_append] at h
        exact fun hmem => h.2.2 _ hmem _ (List.mem_map_of_mem List.mem_cons_self) rfl
      have hadd : addEdge edges e = edges ++ [e] := by
        unfold addEdge
        rw [if_neg]
        simpa using hnew
      rw [List.foldl_cons, hadd, ih (by simpa using h), List.append_assoc, List.singleton_append]

/-- References with distinct keys whose ends are nodes become edges one by one. -/
theorem edgesAmong_eq_map {ids : List String} (hkeys : (refs.map Reference.key).Nodup)
    (hends : ∀ r ∈ refs, r.sourceId ∈ ids ∧ r.targetId ∈ ids) :
    edgesAmong ids refs = refs.map edgeOf := by
  have hall : (refs.filter fun r => ids.contains r.sourceId && ids.contains r.targetId) = refs := by
    rw [List.filter_eq_self]
    intro r hr
    simpa using hends r hr
  have hedges : (([] ++ refs.map edgeOf).map Edge.key).Nodup := by
    rw [List.nil_append, List.map_map]
    exact hkeys
  unfold edgesAmong
  rw [hall, foldl_addEdge_eq_append hedges, List.nil_append]

/-! ## Graphs of all entities -/

/-- An edge that says what a reference says, and how sure it is. -/
structure Transcribes (r : Reference) (e : Edge) : Prop where
  source : e.source = r.sourceId
  target : e.target = r.targetId
  type : e.type = r.type
  protocol : e.protocol = r.protocol
  weight : e.weight = r.confidence
  likely : Reference.IsLikelihood e.weight

/-- A graph has one node for each entity and one edge for each reference, in their order. -/
structure Carries (entities : List Entity) (refs : List Reference) (g : Graph) : Prop where
  nodes : g.nodes = entities.map (nodeOf {})
  nodes_once : g.ids.Nodup
  edges : List.Forall₂ Transcribes refs g.edges
  edges_once : (g.edges.map Edge.key).Nodup
  total_nodes : g.metrics.nodes = entities.length
  total_edges : g.metrics.edges = refs.length

/-- Calls that are noted on entities do not show in their nodes. -/
theorem map_nodeOf_eq_of_noted (o : Options) (h : List.Forall₂ Reference.Noted entities after) :
    after.map (nodeOf o) = entities.map (nodeOf o) := by
  induction h with
  | nil => rfl
  | cons hnoted _ ih =>
      rcases hnoted with ⟨calls, callers, rfl⟩
      rw [List.map_cons, List.map_cons, ih]
      rfl

/-- The graph of all entities, whatever length of a cycle is critical. -/
theorem build_eq_assemble (n : Int) (entities : List Entity) (refs : List Reference) :
    build { criticalLength := n } entities refs =
      assemble { criticalLength := n } (entities.map (nodeOf {}))
        (edgesAmong (entities.map (·.id)) refs) := by
  have hall : entities.filter (Options.selects { criticalLength := n }) = entities := by
    rw [List.filter_eq_self]
    intro e _
    simp [Options.selects]
  have hids : (entities.map (nodeOf {})).map (·.id) = entities.map (·.id) := by
    rw [List.map_map]
    rfl
  unfold build
  rw [hall, ← hids]
  rfl

/-- The graph of entities and of the references that are built from them has a node for each entity
and an edge for each reference, in their order.  It is the same graph whether calls are noted on the
entities already or not. -/
theorem build_carries (n : Int) (hdistinct : (entities.map (·.id)).Nodup)
    (h : Reference.build entities = .ok (refs, after)) :
    Carries entities refs (build { criticalLength := n } entities refs) ∧
      build { criticalLength := n } after refs = build { criticalLength := n } entities refs := by
  have hedges : edgesAmong (entities.map (·.id)) refs = refs.map edgeOf :=
    edgesAmong_eq_map (Reference.nodup_keys_build h) fun _ hr => Reference.ends_of_mem_build h hr
  have hnodes : after.map (nodeOf {}) = entities.map (nodeOf {}) :=
    map_nodeOf_eq_of_noted {} (Reference.noted_build h)
  have hids : after.map (·.id) = entities.map (·.id) := by
    simpa [Function.comp_def, nodeOf] using congrArg (List.map (·.id)) hnodes
  rw [build_eq_assemble, build_eq_assemble, hnodes, hids, hedges]
  refine ⟨?_, rfl⟩
  exact
    { nodes := rfl
      nodes_once := by
        simpa [ids, assemble, Function.comp_def, nodeOf] using hdistinct
      edges := by
        rw [assemble, List.forall₂_map_right_iff, List.forall₂_same]
        exact fun r hr => ⟨rfl, rfl, rfl, rfl, rfl, Reference.isLikelihood_of_mem_build h hr⟩
      edges_once := by
        rw [assemble, List.map_map]
        exact Reference.nodup_keys_build h
      total_nodes := by
        simp [assemble, measure]
      total_edges := by
        simp [assemble, measure] }

/-- A class of one language and one of another that has it as a base twice and calls it: of the
three references that are inferred two are built, and both become edges. -/
theorem build_carries_figures : ∃ refs after,
    Reference.build Reference.figures = .ok (refs, after) ∧ refs.length = 2 ∧
      (build {} after refs).metrics.edges = 2 ∧
      Carries Reference.figures refs (build {} Reference.figures refs) := by
  have hcount : (Reference.build Reference.figures).map (fun p => p.1.length) = .ok 2 := by
    decide +kernel
  rcases map_eq_ok_iff.1 hcount with ⟨⟨refs, after⟩, hbuild, hlength⟩
  rcases build_carries Config.criticalCycleLength (by decide) hbuild with ⟨hcarries, hsame⟩
  exact ⟨refs, after, hbuild, hlength, (congrArg (·.metrics.edges) hsame).trans
    (hcarries.total_edges.trans hlength), hcarries⟩

end Graph
end CrossAudit
