import CrossAudit.Proofs.Graph.EdgeWalk

/-!
# Parts of a graph around given nodes

Narrowing searches a graph breadth first for a number of rounds, and stops early if a round brings
nothing new.  What it keeps are the nodes that a walk of at most so many edges reaches, and the
edges between them.  The beginnings of such a walk are kept as well, so the walk is still there in
the narrowed graph; this is why narrowing twice around the same nodes is narrowing once, to the
smaller distance.

Main results:

- Theorem `mem_ballFrom_iff`: the rounds of the search reach what so many steps lead to.
- Theorem `mem_ball_iff`: the search finds what lies within the distance.
- Theorem `within_narrow_iff`: distances survive in the narrowed graph, up to the distance to which
  it was narrowed.
- Theorem `narrow_build`: narrowing keeps a ball of a graph that was built, and nests.
-/

namespace CrossAudit
namespace Graph

/-! ## Rounds of the search -/

/-- The next frontier is where the edge leads and what was not reached before. -/
theorem mem_frontier_iff {adj : Adjacency} {reached edge : List String} {v : String} :
    v ∈ frontier adj reached edge ↔ (∃ u ∈ edge, adj.Leads u v) ∧ v ∉ reached := by
  simp [frontier, Adjacency.Leads]

/-- The rounds of the search reach what so many steps lead to, if all that is left out of the part
reached last leads to nothing new. -/
theorem mem_ballFrom_iff {adj : Adjacency} {steps : Nat} {reached edge : List String} {v : String}
    (hedge : edge ⊆ reached)
    (hinner : ∀ u ∈ reached, u ∉ edge → ∀ w, adj.Leads u w → w ∈ reached) :
    v ∈ ballFrom adj steps reached edge ↔ ∃ u ∈ reached, ∃ n ≤ steps, Steps adj.Leads n u v := by
  induction steps generalizing reached edge with
  | zero =>
      rw [ballFrom]
      constructor
      · exact fun hv => ⟨v, hv, 0, Nat.le_refl 0, .refl v⟩
      · rintro ⟨u, hu, n, hn, huv⟩
        obtain rfl := Nat.le_zero.1 hn
        cases huv
        exact hu
  | succ steps ih =>
      have hnext : ∀ u ∈ reached, ∀ w, adj.Leads u w →
          w ∈ reached ++ (frontier adj reached edge).eraseDups := by
        intro u hu w huw
        by_cases hw : w ∈ reached
        · exact List.mem_append_left _ hw
        · have hu' : u ∈ edge := by
            by_contra hu'
            exact hw (hinner u hu hu' w huw)
          rw [List.mem_append, List.mem_eraseDups, mem_frontier_iff]
          exact Or.inr ⟨⟨u, hu', huw⟩, hw⟩
      simp only [ballFrom]
      split
      · -- Nothing new: what is reached leads nowhere else.
        rename_i hempty
        rw [List.isEmpty_iff.1 hempty, List.append_nil] at hnext
        constructor
        · exact fun hv => ⟨v, hv, 0, Nat.zero_le _, .refl v⟩
        · rintro ⟨u, hu, n, _, huv⟩
          exact huv.of_carried (fun a b ha hab => hnext a ha b hab) hu
      · rw [ih (List.subset_append_right _ _) ?_]
        · constructor
          · rintro ⟨u, hu, n, hn, huv⟩
            rcases List.mem_append.1 hu with hu | hu
            · exact ⟨u, hu, n, Nat.le_succ_of_le hn, huv⟩
            · rw [List.mem_eraseDups, mem_frontier_iff] at hu
              rcases hu.1 with ⟨t, ht, htu⟩
              exact ⟨t, hedge ht, n + 1, Nat.succ_le_succ hn, .head htu huv⟩
          · rintro ⟨u, hu, n, hn, huv⟩
            cases huv with
            | refl => exact ⟨v, List.mem_append_left _ hu, 0, Nat.zero_le _, .refl v⟩
            | head huw hwv => exact ⟨_, hnext u hu _ huw, _, Nat.le_of_succ_le_succ hn, hwv⟩
        · intro u hu hnew w huw
          exact hnext u ((List.mem_append.1 hu).resolve_right hnew) w huw

/-! ## Distances in a graph -/

/-- A name lies within a distance of some nodes of a graph: a walk from one of them with at most so
many edges ends there. -/
def Within (g : Graph) (focus : List String) (distance : Nat) (v : String) : Prop :=
  ∃ w, g.Walk w ∧ (∃ f ∈ focus, w.head? = some f) ∧ w.getLast? = some v ∧ w.length ≤ distance + 1

/-- The edges of a graph join its own nodes. -/
def Closed (g : Graph) : Prop :=
  ∀ e ∈ g.edges, e.source ∈ g.ids ∧ e.target ∈ g.ids

section Within

variable {g : Graph} {focus : List String} {d n : Nat} {u v : String}

/-- To be within a distance is to be some steps of joined nodes away from the focus. -/
theorem within_iff_steps : g.Within focus d v ↔
    ∃ f ∈ focus, f ∈ g.ids ∧ ∃ n ≤ d, Steps g.Joins n f v := by
  constructor
  · rintro ⟨w, ⟨⟨f, hf, hhead⟩, hchain⟩, ⟨f', hfocus, hhead'⟩, hlast, hlength⟩
    obtain rfl : f = f' := Option.some.inj (hhead.symm.trans hhead')
    rcases List.head?_eq_some_iff.1 hhead with ⟨rest, rfl⟩
    exact ⟨f, hfocus, hf, rest.length, by simpa using hlength,
      steps_iff_exists_walk.2 ⟨f :: rest, hchain, rfl, hlast, rfl⟩⟩
  · rintro ⟨f, hfocus, hf, n, hn, hsteps⟩
    rcases steps_iff_exists_walk.1 hsteps with ⟨w, hchain, hhead, hlast, hlength⟩
    exact ⟨w, ⟨⟨f, hf, hhead⟩, hchain⟩, ⟨f, hfocus, hhead⟩, hlast, by omega⟩

/-- Within no distance is the focus itself. -/
theorem within_zero_iff : g.Within focus 0 v ↔ v ∈ focus ∧ v ∈ g.ids := by
  rw [within_iff_steps]
  constructor
  · rintro ⟨f, hfocus, hf, n, hn, hsteps⟩
    obtain rfl := Nat.le_zero.1 hn
    cases hsteps
    exact ⟨hfocus, hf⟩
  · rintro ⟨hfocus, hv⟩
    exact ⟨v, hfocus, hv, 0, Nat.le_refl 0, .refl v⟩

/-- One more step goes to what is joined. -/
theorem within_succ_iff : g.Within focus (n + 1) v ↔
    g.Within focus n v ∨ ∃ u, g.Within focus n u ∧ g.Joins u v := by
  simp only [within_iff_steps]
  constructor
  · rintro ⟨f, hfocus, hf, m, hm, hsteps⟩
    rcases Nat.le_succ_iff.1 hm with hm | rfl
    · exact Or.inl ⟨f, hfocus, hf, m, hm, hsteps⟩
    · rcases hsteps.exists_last with ⟨u, hfu, huv⟩
      exact Or.inr ⟨u, ⟨f, hfocus, hf, n, Nat.le_refl n, hfu⟩, huv⟩
  · rintro (⟨f, hfocus, hf, m, hm, hsteps⟩ | ⟨u, ⟨f, hfocus, hf, m, hm, hsteps⟩, huv⟩)
    · exact ⟨f, hfocus, hf, m, Nat.le_succ_of_le hm, hsteps⟩
    · exact ⟨f, hfocus, hf, m + 1, Nat.succ_le_succ hm, hsteps.tail huv⟩

/-- What is within a distance is within every greater one. -/
theorem Within.mono (h : g.Within focus n v) (hle : n ≤ d) : g.Within focus d v := by
  rcases h with ⟨w, hwalk, hfocus, hlast, hlength⟩
  exact ⟨w, hwalk, hfocus, hlast, by omega⟩

/-- Everything within a distance is a node. -/
theorem Within.mem_ids (h : g.Within focus n v) (hclosed : g.Closed) : v ∈ g.ids := by
  induction n generalizing v with
  | zero => exact (within_zero_iff.1 h).2
  | succ n ih =>
      rcases within_succ_iff.1 h with h | ⟨u, _, e, he, _, rfl⟩
      · exact ih h
      · exact (hclosed e he).2

end Within

/-! ## What the search finds -/

/-- In a table of nodes without targets exactly the nodes are found. -/
theorem isSome_lookup_ofPairs_iff (ids : List String) (v : String) :
    ((Assoc.ofPairs (ids.map fun id => (id, ([] : List String)))).lookup v).isSome ↔ v ∈ ids := by
  have hrun : ∀ table : Adjacency,
      (((ids.map fun id => (id, ([] : List String))).foldl
          (fun table p => Assoc.set p.1 p.2 table) table).lookup v).isSome ↔
        (table.lookup v).isSome ∨ v ∈ ids := by
    induction ids with
    | nil => simp
    | cons id ids ih =>
        intro table
        rw [List.map_cons, List.foldl_cons, ih, Assoc.lookup_set, List.mem_cons]
        by_cases hv : v = id
        · simp [hv]
        · simp [hv]
  exact (hrun []).trans (by simp)

/-- A table has a row for each node and for each source of an edge. -/
theorem isSome_lookup_tableOf_iff (nodes : List Node) (edges : List Edge) (v : String) :
    ((tableOf nodes edges).lookup v).isSome ↔
      v ∈ nodes.map (·.id) ∨ v ∈ edges.map (·.source) := by
  have hrun : ∀ adj : Adjacency,
      ((edges.foldl (fun adj e => Assoc.update e.source [] (addTarget e.target) adj) adj).lookup
          v).isSome ↔ (adj.lookup v).isSome ∨ v ∈ edges.map (·.source) := by
    induction edges with
    | nil => simp
    | cons e edges ih =>
        intro adj
        rw [List.foldl_cons, ih, Assoc.lookup_update, List.map_cons, List.mem_cons]
        by_cases hv : v = e.source
        · simp [hv]
        · simp [hv]
  have hstart := isSome_lookup_ofPairs_iff (nodes.map (·.id)) v
  rw [List.map_map] at hstart
  exact (hrun _).trans (or_congr_left hstart)

/-- The rows of a graph whose edges join its nodes are its nodes. -/
theorem Closed.isSome_lookup_iff {g : Graph} (h : g.Closed) (v : String) :
    (g.adjacency.lookup v).isSome ↔ v ∈ g.ids := by
  rw [adjacency, isSome_lookup_tableOf_iff]
  refine or_iff_left_of_imp fun hv => ?_
  rcases List.mem_map.1 hv with ⟨e, he, rfl⟩
  exact (h e he).1

/-- The search finds what lies within the distance. -/
theorem mem_ball_iff {g : Graph} (h : g.Closed) {focus : List String} {d : Nat} {v : String} :
    v ∈ ball g.adjacency d focus ↔ g.Within focus d v := by
  rw [ball, mem_ballFrom_iff (List.Subset.refl _) fun u hu hu' => absurd hu hu', within_iff_steps,
    leads_adjacency]
  simp only [List.mem_filter, h.isSome_lookup_iff, and_assoc]

/-! ## Narrowing -/

section Narrow

variable {g : Graph} {focus : List String} {d n : Nat} {u v : String} {o : Options}

/-- Restricting a graph keeps the nodes that are to be kept. -/
theorem nodes_restrict (o : Options) (g : Graph) (kept : List String) :
    (restrict o g kept).nodes = g.nodes.filter fun n => kept.contains n.id :=
  rfl

/-- Restricting a graph keeps the edges between nodes that are to be kept. -/
theorem edges_restrict (o : Options) (g : Graph) (kept : List String) :
    (restrict o g kept).edges =
      g.edges.filter fun e => kept.contains e.source && kept.contains e.target :=
  rfl

/-- A narrowed graph has the nodes within the distance. -/
theorem mem_ids_narrow_iff (h : g.Closed) :
    v ∈ (narrow o g focus d).ids ↔ g.Within focus d v := by
  have hmem : v ∈ (narrow o g focus d).ids ↔ v ∈ g.ids ∧ v ∈ ball g.adjacency d focus := by
    simp only [ids, narrow, nodes_restrict, List.mem_map, List.mem_filter, List.contains_iff_mem]
    constructor
    · rintro ⟨n, ⟨hn, hkept⟩, rfl⟩
      exact ⟨⟨n, hn, rfl⟩, hkept⟩
    · rintro ⟨⟨n, hn, rfl⟩, hkept⟩
      exact ⟨n, ⟨hn, hkept⟩, rfl⟩
  rw [hmem, mem_ball_iff h]
  exact ⟨And.right, fun hv => ⟨hv.mem_ids h, hv⟩⟩

/-- A narrowed graph joins what was joined and is within the distance. -/
theorem joins_narrow_iff (h : g.Closed) : (narrow o g focus d).Joins u v ↔
    g.Joins u v ∧ g.Within focus d u ∧ g.Within focus d v := by
  simp only [Joins, narrow, edges_restrict, List.mem_filter, Bool.and_eq_true,
    List.contains_iff_mem, mem_ball_iff h]
  constructor
  · rintro ⟨e, ⟨he, hsource, htarget⟩, rfl, rfl⟩
    exact ⟨⟨e, he, rfl, rfl⟩, hsource, htarget⟩
  · rintro ⟨⟨e, he, rfl, rfl⟩, hsource, htarget⟩
    exact ⟨e, ⟨he, hsource, htarget⟩, rfl, rfl⟩

/-- Narrowing leaves no edge without its ends. -/
theorem Closed.narrow (h : g.Closed) (o : Options) (focus : List String) (d : Nat) :
    (narrow o g focus d).Closed := by
  intro e he
  have hjoins : (Graph.narrow o g focus d).Joins e.source e.target := ⟨e, he, rfl, rfl⟩
  rw [mem_ids_narrow_iff h, mem_ids_narrow_iff h]
  exact ((joins_narrow_iff h).1 hjoins).2

/-- Up to the distance to which a graph was narrowed, its distances are what they were. -/
theorem within_narrow_of_le (h : g.Closed) (hle : n ≤ d) :
    (narrow o g focus d).Within focus n v ↔ g.Within focus n v := by
  induction n generalizing v with
  | zero =>
      rw [within_zero_iff, within_zero_iff, mem_ids_narrow_iff h]
      refine and_congr_right fun hfocus => ⟨fun hv => hv.mem_ids h, fun hv => ?_⟩
      exact (within_zero_iff.2 ⟨hfocus, hv⟩).mono (Nat.zero_le d)
  | succ n ih =>
      have hn : n ≤ d := Nat.le_of_succ_le hle
      simp only [within_succ_iff, ih hn, joins_narrow_iff h]
      refine or_congr_right (exists_congr fun u => and_congr_right fun hu => ?_)
      -- Both ends of the last edge of a short walk are kept.
      exact ⟨And.left, fun huv => ⟨huv, hu.mono hn,
        (within_succ_iff.2 (Or.inr ⟨u, hu, huv⟩)).mono hle⟩⟩

/-- In a narrowed graph a node lies within a distance if it did so before, within the distance to
which the graph was narrowed. -/
theorem within_narrow_iff (h : g.Closed) :
    (narrow o g focus d).Within focus n v ↔ g.Within focus (min d n) v := by
  rcases Nat.le_total n d with hle | hle
  · rw [Nat.min_eq_right hle, within_narrow_of_le h hle]
  · rw [Nat.min_eq_left hle]
    constructor
    · exact fun hv => (mem_ids_narrow_iff h).1 (hv.mem_ids (h.narrow o focus d))
    · exact fun hv => ((within_narrow_of_le h (Nat.le_refl d)).2 hv).mono hle

end Narrow

open Classical in
/-- The nodes that narrowing keeps are those within the distance, in their order. -/
theorem nodes_narrow {g : Graph} (h : g.Closed) (o : Options) (focus : List String) (d : Nat) :
    (narrow o g focus d).nodes = g.nodes.filter fun n => g.Within focus d n.id := by
  rw [narrow, nodes_restrict]
  exact List.filter_congr fun n _ => by
    rw [← decide_eq_decide.2 (mem_ball_iff h), List.contains_eq_mem]

open Classical in
/-- The edges that narrowing keeps are those between nodes within the distance, in their order. -/
theorem edges_narrow {g : Graph} (h : g.Closed) (o : Options) (focus : List String) (d : Nat) :
    (narrow o g focus d).edges =
      g.edges.filter fun e => g.Within focus d e.source ∧ g.Within focus d e.target := by
  rw [narrow, edges_restrict]
  exact List.filter_congr fun e _ => by
    simp only [List.contains_eq_mem, Bool.decide_and, mem_ball_iff h]

/-- A narrowed graph is put together from what it keeps. -/
theorem narrow_eq_assemble (o : Options) (g : Graph) (focus : List String) (d : Nat) :
    narrow o g focus d = assemble o (narrow o g focus d).nodes (narrow o g focus d).edges :=
  rfl

/-- Narrowing twice around the same nodes is narrowing once, to the smaller distance. -/
theorem narrow_narrow {g : Graph} (h : g.Closed) (o p : Options) (focus : List String)
    (d₁ d₂ : Nat) :
    narrow o (narrow p g focus d₁) focus d₂ = narrow o g focus (min d₁ d₂) := by
  classical
  have hkept : ∀ v, g.Within focus d₁ v ∧ g.Within focus (min d₁ d₂) v ↔
      g.Within focus (min d₁ d₂) v :=
    fun v => and_iff_right_of_imp fun hv => hv.mono (Nat.min_le_left d₁ d₂)
  have hclosed := h.narrow p focus d₁
  have hnodes : (narrow o (narrow p g focus d₁) focus d₂).nodes =
      (narrow o g focus (min d₁ d₂)).nodes := by
    rw [nodes_narrow hclosed, nodes_narrow h, nodes_narrow h, List.filter_filter]
    refine List.filter_congr fun n _ => ?_
    rw [← Bool.decide_and, decide_eq_decide, within_narrow_iff h, and_comm]
    exact hkept n.id
  have hedges : (narrow o (narrow p g focus d₁) focus d₂).edges =
      (narrow o g focus (min d₁ d₂)).edges := by
    rw [edges_narrow hclosed, edges_narrow h, edges_narrow h, List.filter_filter]
    refine List.filter_congr fun e _ => ?_
    rw [← Bool.decide_and, decide_eq_decide, within_narrow_iff h, within_narrow_iff h, and_comm,
      and_and_and_comm]
    exact and_congr (hkept e.source) (hkept e.target)
  rw [narrow_eq_assemble o (narrow p g focus d₁), narrow_eq_assemble o g, hnodes, hedges]

/-- A graph that is built has no edge without its ends. -/
theorem closed_build (o : Options) (entities : List Entity) (references : List Reference) :
    (build o entities references).Closed :=
  fun _ he => ends_of_mem_edgesAmong _ references he

open Classical in
/-- Narrowing a graph that was built keeps exactly the nodes within the distance, in their order,
and the edges between them; and narrowing twice is narrowing once, to the smaller distance, with the
same cycles and figures. -/
theorem narrow_build (o p q : Options) (entities : List Entity) (references : List Reference)
    (focus : List String) (d₁ d₂ : Nat) :
    let g := build o entities references
    (narrow p g focus d₁).nodes = (g.nodes.filter fun n => g.Within focus d₁ n.id) ∧
    (narrow p g focus d₁).edges =
      (g.edges.filter fun e => g.Within focus d₁ e.source ∧ g.Within focus d₁ e.target) ∧
    narrow q (narrow p g focus d₁) focus d₂ = narrow q g focus (min d₁ d₂) := by
  have hclosed := closed_build o entities references
  exact ⟨nodes_narrow hclosed p focus d₁, edges_narrow hclosed p focus d₁,
    narrow_narrow hclosed q p focus d₁ d₂⟩

/-- The third function is two calls away from the first; a name that is no node is passed over. -/
example : (narrow {}
    (build {} [functionNamed "a", functionNamed "b", functionNamed "c"]
      [callBetween "a" "b", callBetween "b" "c"]) ["a", "x"] 1).ids = ["a", "b"] := by
  decide +kernel

end Graph
end CrossAudit
