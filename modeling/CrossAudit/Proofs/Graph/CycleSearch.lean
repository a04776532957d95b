import CrossAudit.Proofs.Graph.Walk
import Mathlib.Data.List.Perm.Basic

/-!
# The search for cycles misses none

The search is followed with two lists that it does not keep itself: the nodes in the order in which
they were entered, and the nodes that were left, the latest first.  The current path and every
cycle that was found are sublists of the first list, so two cycles that are rotations of one
another are equal, and dropping one of them loses no closing edge.  The second list is an order in
which every edge that closes no found cycle leads to an earlier node.

Main results:

- Theorem `Search.run`: a search to its end keeps the invariant.
- Theorem `Search.left_acyclic`: between nodes that were left, the edges that close no found cycle
  form no directed cycle.
- Theorem `detectCycles_complete`: without the closing edges of the cycles that are found, no
  directed cycle is accessible; and none are found exactly if there are none.
-/

namespace CrossAudit
namespace Graph

open Relation

/-! ## Rotations and found cycles -/

/-- A rotation has the same nodes. -/
theorem canonicalRotation_perm (nodes : List String) :
    (canonicalRotation nodes).Perm nodes := by
  cases nodes with
  | nil => exact List.Perm.refl _
  | cons first rest =>
      unfold canonicalRotation
      refine List.perm_append_comm.trans ?_
      rw [List.takeWhile_append_dropWhile]

/-- What was found stays found. -/
theorem mem_addCycle_of_mem {found : List (List String)} {c : List String}
    (nodes : List String) (h : c ∈ found) : c ∈ addCycle found nodes := by
  simp only [addCycle]
  split
  · exact h
  · exact List.mem_append_left _ h

/-- Nothing but the given cycle is added. -/
theorem mem_or_eq_of_mem_addCycle {found : List (List String)} {c nodes : List String}
    (h : c ∈ addCycle found nodes) : c ∈ found ∨ c = nodes := by
  simp only [addCycle] at h
  split at h
  · exact Or.inl h
  · simpa using h

/-- A cycle that was added is there up to the order of its nodes. -/
theorem exists_perm_mem_addCycle (found : List (List String)) (nodes : List String) :
    ∃ c ∈ addCycle found nodes, c.Perm nodes := by
  simp only [addCycle]
  split
  · rename_i hany
    rcases List.any_eq_true.1 hany with ⟨c, hc, hsame⟩
    rw [Bool.and_eq_true, beq_iff_eq, beq_iff_eq] at hsame
    refine ⟨c, hc, (canonicalRotation_perm c).symm.trans ?_⟩
    rw [hsame.2]
    exact canonicalRotation_perm nodes
  · exact ⟨nodes, by simp, List.Perm.refl _⟩

/-- Among sublists of one list without repetitions, a cycle that is added is found as it is. -/
theorem mem_addCycle_self {found : List (List String)} {nodes entered : List String}
    (hnodup : entered.Nodup) (hfound : ∀ c ∈ found, c.Sublist entered)
    (hnodes : nodes.Sublist entered) : nodes ∈ addCycle found nodes := by
  rcases exists_perm_mem_addCycle found nodes with ⟨c, hc, hperm⟩
  have hsub : c.Sublist entered := by
    rcases mem_or_eq_of_mem_addCycle hc with hold | rfl
    · exact hfound c hold
    · exact hnodes
  have heq : c = nodes := (hnodup.perm_iff_eq_of_sublist hsub hnodes).1 hperm
  rwa [heq] at hc

/-! ## The cycle that a target closes -/

/-- A closed cycle is the end of the path, outermost node first. -/
theorem closedBy_suffix {next : String} {path : List String} (h : next ∈ path) :
    closedBy next path <:+ path.reverse := by
  induction path with
  | nil => simp at h
  | cons u below ih =>
      by_cases hu : u = next
      · subst hu
        simp [closedBy]
      · have hmem : next ∈ below := by
          rcases List.mem_cons.1 h with rfl | h
          · exact absurd rfl hu
          · exact h
        rcases ih hmem with ⟨front, hfront⟩
        refine ⟨front, ?_⟩
        simp only [closedBy] at hfront
        simp [closedBy, hu, ← hfront]

/-- A closed cycle begins with the target and ends with the innermost node. -/
theorem closes_closedBy {u next : String} {below : List String} (h : next ∈ u :: below) :
    Closes (closedBy next (u :: below)) u next := by
  refine ⟨?_, rfl⟩
  rcases closedBy_suffix h with ⟨front, hfront⟩
  have hlast : (front ++ closedBy next (u :: below)).getLast? = some u := by
    rw [hfront]
    simp
  rwa [List.getLast?_append_of_ne_nil _ (by simp [closedBy])] at hlast

/-! ## What is known of the edges that were looked at -/

/-- Some found cycle is closed by the edge between two nodes. -/
def IsClosing (found : List (List String)) (u v : String) : Prop :=
  ∃ c ∈ found, Closes c u v

/-- The edges that close no found cycle. -/
def Remains (adj : Adjacency) (found : List (List String)) (u v : String) : Prop :=
  adj.Leads u v ∧ ¬ IsClosing found u v

/-- Every target of a node that was left was left before it, or closes a found cycle. -/
def Settled (adj : Adjacency) (found : List (List String)) : List String → Prop
  | [] => True
  | u :: older => (∀ v, adj.Leads u v → v ∈ older ∨ IsClosing found u v) ∧ Settled adj found older

/-- Every target of a node on the path is still to be looked at, is known, or closes a found cycle.
The nodes further inside are known to the ones around them. -/
def Explained (adj : Adjacency) (found : List (List String)) : List String → List Frame → Prop
  | _, [] => True
  | known, (u, rest) :: below =>
    (∀ v, adj.Leads u v → v ∈ rest ∨ v ∈ known ∨ IsClosing found u v) ∧
      Explained adj found (u :: known) below

theorem IsClosing.addCycle {found : List (List String)} {u v : String} (nodes : List String)
    (h : IsClosing found u v) : IsClosing (addCycle found nodes) u v := by
  rcases h with ⟨c, hc, hclose⟩
  exact ⟨c, mem_addCycle_of_mem nodes hc, hclose⟩

theorem Settled.addCycle {adj : Adjacency} {found : List (List String)} {left : List String}
    (nodes : List String) (h : Settled adj found left) :
    Settled adj (addCycle found nodes) left := by
  induction left with
  | nil => trivial
  | cons u older ih =>
      refine ⟨?_, ih h.2⟩
      intro v huv
      exact (h.1 v huv).imp_right (IsClosing.addCycle nodes)

theorem Explained.addCycle {adj : Adjacency} {found : List (List String)} {known : List String}
    {frames : List Frame} (nodes : List String) (h : Explained adj found known frames) :
    Explained adj (addCycle found nodes) known frames := by
  induction frames generalizing known with
  | nil => trivial
  | cons f below ih =>
      refine ⟨?_, ih h.2⟩
      intro v huv
      exact (h.1 v huv).imp_right (Or.imp_right (IsClosing.addCycle nodes))

/-- More may be known than needed. -/
theorem Explained.mono {adj : Adjacency} {found : List (List String)} {known more : List String}
    {frames : List Frame} (hsub : known ⊆ more) (h : Explained adj found known frames) :
    Explained adj found more frames := by
  induction frames generalizing known more with
  | nil => trivial
  | cons f below ih =>
      refine ⟨?_, ih (List.cons_subset_cons f.1 hsub) h.2⟩
      intro v huv
      exact (h.1 v huv).imp_right (Or.imp_left fun hv => hsub hv)

/-- The remaining edges out of settled nodes stay among them. -/
theorem Settled.mem_of_transGen {adj : Adjacency} {found : List (List String)}
    {left : List String} {u v : String} (h : Settled adj found left) (hu : u ∈ left)
    (huv : TransGen (Remains adj found) u v) : v ∈ left := by
  have hstep : ∀ a b, a ∈ left → Remains adj found a b → b ∈ left := by
    clear hu huv
    induction left with
    | nil => simp
    | cons w older ih =>
        intro a b ha hab
        rcases List.mem_cons.1 ha with rfl | ha
        · rcases h.1 b hab.1 with hb | hclosing
          · exact List.mem_cons_of_mem _ hb
          · exact absurd hclosing hab.2
        · exact List.mem_cons_of_mem _ (ih h.2 a b ha hab)
  induction huv with
  | single huv => exact hstep _ _ hu huv
  | tail _ hvw ih => exact hstep _ _ ih hvw

/-- Between settled nodes, the remaining edges form no directed cycle. -/
theorem Settled.not_transGen_self {adj : Adjacency} {found : List (List String)}
    {left : List String} {v : String} (h : Settled adj found left) (hnodup : left.Nodup)
    (hv : v ∈ left) : ¬ TransGen (Remains adj found) v v := by
  induction left with
  | nil => simp at hv
  | cons u older ih =>
      rw [List.nodup_cons] at hnodup
      intro hcycle
      rcases List.mem_cons.1 hv with rfl | hv
      · -- The cycle leaves the latest node for an older one, from which it cannot come back.
        rcases TransGen.head'_iff.1 hcycle with ⟨w, hvw, hwv⟩
        have hw : w ∈ older := (h.1 w hvw.1).resolve_right hvw.2
        rcases reflTransGen_iff_eq_or_transGen.1 hwv with rfl | hwv
        · exact hnodup.1 hw
        · exact hnodup.1 (h.2.mem_of_transGen hw hwv)
      · exact ih h.2 hnodup.2 hv hcycle

/-! ## The invariant of the search -/

/-- What holds at every moment of a search.  The nodes that were entered are listed in this order,
and the nodes that were left with the latest in front. -/
structure Search (adj : Adjacency) (order : List String) (entered left : List String)
    (fresh : List String) (frames : List Frame) (found : List (List String)) : Prop where
  nodup : entered.Nodup
  not_fresh : ∀ v ∈ entered, v ∉ fresh
  cover : ∀ v ∈ Adjacency.mentioned order adj, v ∈ fresh ∨ v ∈ entered
  accessible : ∀ v ∈ entered, adj.Accessible order v
  entered_perm : entered.Perm (pathOf frames ++ left)
  path_sublist : (pathOf frames).reverse.Sublist entered
  path_chain : (pathOf frames).reverse.IsChain adj.Leads
  rest_leads : ∀ f ∈ frames, ∀ v ∈ f.2, adj.Leads f.1 v
  found_sublist : ∀ c ∈ found, c.Sublist entered
  found_walk : ∀ c ∈ found, ClosedWalk adj c
  settled : Settled adj found left
  explained : Explained adj found left frames

namespace Search

variable {adj : Adjacency} {order entered left fresh : List String} {frames below : List Frame}
  {found : List (List String)} {u next : String} {rest : List String}

/-- Before anything is entered. -/
theorem initial (adj : Adjacency) (order : List String) :
    Search adj order [] [] (Adjacency.mentioned order adj) [] [] where
  nodup := List.nodup_nil
  not_fresh := by simp
  cover := fun v hv => Or.inl hv
  accessible := by simp
  entered_perm := List.Perm.refl _
  path_sublist := List.Sublist.refl _
  path_chain := List.IsChain.nil
  rest_leads := by simp
  found_sublist := by simp
  found_walk := by simp
  settled := trivial
  explained := trivial

/-- Nodes on the path were entered. -/
theorem mem_entered_of_frame (h : Search adj order entered left fresh ((u, rest) :: below) found) :
    u ∈ entered := by
  rw [h.entered_perm.mem_iff]
  simp

/-- The nodes that were left are listed once. -/
theorem left_nodup (h : Search adj order entered left fresh frames found) : left.Nodup := by
  have hall : (pathOf frames ++ left).Nodup := h.entered_perm.nodup_iff.1 h.nodup
  exact (List.nodup_append.1 hall).2.1

/-- Between nodes that were left, the edges that close no found cycle form no directed cycle. -/
theorem left_acyclic (h : Search adj order entered left fresh frames found) {v : String}
    (hv : v ∈ left) : ¬ TransGen (Remains adj found) v v :=
  h.settled.not_transGen_self h.left_nodup hv

/-- The next target of the innermost node is behind it. -/
theorem leads_next (h : Search adj order entered left fresh ((u, next :: rest) :: below) found) :
    adj.Leads u next :=
  h.rest_leads (u, next :: rest) List.mem_cons_self next List.mem_cons_self

/-! ### Steps -/

/-- Leaves a node whose targets were all looked at. -/
theorem leave (h : Search adj order entered left fresh ((u, []) :: below) found) :
    Search adj order entered (u :: left) fresh below found where
  nodup := h.nodup
  not_fresh := h.not_fresh
  cover := h.cover
  accessible := h.accessible
  entered_perm := h.entered_perm.trans List.perm_middle.symm
  path_sublist := by
    have hsub := h.path_sublist
    rw [pathOf_cons, List.reverse_cons] at hsub
    exact (List.sublist_append_left _ _).trans hsub
  path_chain := by
    have hchain := h.path_chain
    rw [pathOf_cons, List.reverse_cons] at hchain
    exact hchain.left_of_append
  rest_leads := fun f hf => h.rest_leads f (List.mem_cons_of_mem _ hf)
  found_sublist := h.found_sublist
  found_walk := h.found_walk
  settled := by
    refine ⟨?_, h.settled⟩
    intro v huv
    exact (h.explained.1 v huv).resolve_left List.not_mem_nil
  explained := h.explained.2

/-- Passes over a target that was left or that closes a found cycle. -/
theorem advance (h : Search adj order entered left fresh ((u, next :: rest) :: below) found)
    (hnext : next ∈ left ∨ IsClosing found u next) :
    Search adj order entered left fresh ((u, rest) :: below) found :=
  { h with
    rest_leads := by
      intro f hf v hv
      rcases List.mem_cons.1 hf with rfl | hf
      · exact h.rest_leads (u, next :: rest) List.mem_cons_self v (List.mem_cons_of_mem _ hv)
      · exact h.rest_leads f (List.mem_cons_of_mem _ hf) v hv
    explained := by
      refine ⟨?_, h.explained.2⟩
      intro v huv
      rcases h.explained.1 v huv with hv | hv
      · rcases List.mem_cons.1 hv with rfl | hv
        · exact Or.inr hnext
        · exact Or.inl hv
      · exact Or.inr hv }

/-- Records the cycle that a target on the path closes. -/
theorem record (h : Search adj order entered left fresh ((u, next :: rest) :: below) found)
    (hnext : next ∈ u :: pathOf below) :
    Search adj order entered left fresh ((u, next :: rest) :: below)
      (addCycle found (closedBy next (u :: pathOf below))) := by
  have hsuffix := closedBy_suffix hnext
  have hclosed : ClosedWalk adj (closedBy next (u :: pathOf below)) :=
    { ne_nil := by simp [closedBy]
      chain := h.path_chain.suffix hsuffix
      closing := by
        rintro a b ⟨hlast, hhead⟩
        have hclose := closes_closedBy hnext
        rw [hclose.1, Option.some.injEq] at hlast
        rw [hclose.2, Option.some.injEq] at hhead
        subst hlast hhead
        exact h.leads_next }
  exact { h with
    found_sublist := by
      intro c hc
      rcases mem_or_eq_of_mem_addCycle hc with hc | rfl
      · exact h.found_sublist c hc
      · exact hsuffix.sublist.trans h.path_sublist
    found_walk := by
      intro c hc
      rcases mem_or_eq_of_mem_addCycle hc with hc | rfl
      · exact h.found_walk c hc
      · exact hclosed
    settled := h.settled.addCycle _
    explained := h.explained.addCycle _ }

/-- Looks at a target on the path. -/
theorem close (h : Search adj order entered left fresh ((u, next :: rest) :: below) found)
    (hnext : next ∈ u :: pathOf below) :
    Search adj order entered left fresh ((u, rest) :: below)
      (addCycle found (closedBy next (u :: pathOf below))) := by
  refine (h.record hnext).advance (Or.inr ⟨_, ?_, closes_closedBy hnext⟩)
  exact mem_addCycle_self h.nodup h.found_sublist
    ((closedBy_suffix hnext).sublist.trans h.path_sublist)

/-- Looks at a target that was left. -/
theorem skip (h : Search adj order entered left fresh ((u, next :: rest) :: below) found)
    (hpath : next ∉ u :: pathOf below) (hfresh : next ∉ fresh) :
    Search adj order entered left fresh ((u, rest) :: below) found := by
  have hentered : next ∈ entered :=
    (h.cover next (Adjacency.mem_mentioned_of_leads h.leads_next)).resolve_left hfresh
  rw [h.entered_perm.mem_iff] at hentered
  exact h.advance (Or.inl ((List.mem_append.1 hentered).resolve_left hpath))

/-- Puts a fresh node in front of the path, where the frames behind it are as they should be. -/
theorem push (h : Search adj order entered left fresh frames found) (hnext : next ∈ fresh)
    (haccessible : adj.Accessible order next)
    (hchain : (next :: pathOf frames).reverse.IsChain adj.Leads)
    {frames' : List Frame} (hpath : pathOf frames' = pathOf frames)
    (hrest : ∀ f ∈ frames', ∀ v ∈ f.2, adj.Leads f.1 v)
    (hexplained : Explained adj found (next :: left) frames') :
    Search adj order (entered ++ [next]) left (without next fresh)
      ((next, adj.targets next) :: frames') found where
  nodup := by
    rw [List.nodup_append]
    refine ⟨h.nodup, by simp, ?_⟩
    rintro a ha b hb rfl
    rw [List.mem_singleton] at hb
    subst hb
    exact h.not_fresh a ha hnext
  not_fresh := by
    intro v hv
    rcases List.mem_append.1 hv with hv | hv
    · exact fun hmem => h.not_fresh v hv (List.mem_filter.1 hmem).1
    · rw [List.mem_singleton] at hv
      subst hv
      simp [without]
  cover := by
    intro v hv
    by_cases heq : v = next
    · subst heq
      exact Or.inr (by simp)
    · rcases h.cover v hv with hv | hv
      · exact Or.inl (List.mem_filter.2 ⟨hv, by simpa using heq⟩)
      · exact Or.inr (List.mem_append_left _ hv)
  accessible := by
    intro v hv
    rcases List.mem_append.1 hv with hv | hv
    · exact h.accessible v hv
    · rw [List.mem_singleton] at hv
      rwa [hv]
  entered_perm := by
    rw [pathOf_cons, hpath]
    exact (List.perm_append_singleton _ _).trans (h.entered_perm.cons next)
  path_sublist := by
    rw [pathOf_cons, List.reverse_cons, hpath]
    exact h.path_sublist.append (List.Sublist.refl _)
  path_chain := by
    rw [pathOf_cons, hpath]
    exact hchain
  rest_leads := by
    intro f hf v hv
    rcases List.mem_cons.1 hf with rfl | hf
    · exact hv
    · exact hrest f hf v hv
  found_sublist := fun c hc => (h.found_sublist c hc).trans (List.sublist_append_left _ _)
  found_walk := h.found_walk
  settled := h.settled
  explained := ⟨fun v hv => Or.inl hv, hexplained⟩

/-- Enters a fresh target. -/
theorem enter (h : Search adj order entered left fresh ((u, next :: rest) :: below) found)
    (hnext : next ∈ fresh) :
    Search adj order (entered ++ [next]) left (without next fresh)
      ((next, adj.targets next) :: (u, rest) :: below) found := by
  refine h.push hnext ?_ ?_ rfl ?_ ?_
  · exact (h.accessible u h.mem_entered_of_frame).step h.leads_next
  · rw [List.reverse_cons]
    refine h.path_chain.append (List.IsChain.singleton _) ?_
    intro a ha b hb
    simp only [pathOf_cons, List.reverse_cons, List.getLast?_append, List.getLast?_singleton,
      Option.some_or, Option.mem_some_iff, List.head?_cons] at ha hb
    subst ha hb
    exact h.leads_next
  · intro f hf v hv
    rcases List.mem_cons.1 hf with rfl | hf
    · exact h.rest_leads (u, next :: rest) List.mem_cons_self v (List.mem_cons_of_mem _ hv)
    · exact h.rest_leads f (List.mem_cons_of_mem _ hf) v hv
  · refine ⟨?_, h.explained.2.mono ?_⟩
    · intro v huv
      rcases h.explained.1 v huv with hv | hv | hv
      · rcases List.mem_cons.1 hv with rfl | hv
        · exact Or.inr (Or.inl List.mem_cons_self)
        · exact Or.inl hv
      · exact Or.inr (Or.inl (List.mem_cons_of_mem _ hv))
      · exact Or.inr (Or.inr hv)
    · exact List.cons_subset_cons u (List.subset_cons_self next left)

/-- Enters a fresh start node. -/
theorem start (h : Search adj order entered left fresh [] found) (hnext : next ∈ fresh)
    (horder : next ∈ order) :
    Search adj order (entered ++ [next]) left (without next fresh)
      [(next, adj.targets next)] found :=
  h.push hnext (Adjacency.Accessible.of_mem horder) (List.IsChain.singleton _) rfl (by simp) trivial

/-! ### Runs -/

/-- A search to its end keeps the invariant, and what was entered. -/
theorem run (h : Search adj order entered left fresh frames found) :
    ∃ entered' left', entered ⊆ entered' ∧
      Search adj order entered' left' (searchCycles adj fresh frames found).1 []
        (searchCycles adj fresh frames found).2 := by
  fun_induction searchCycles adj fresh frames found generalizing entered left with
  | case1 fresh found => exact ⟨entered, left, List.Subset.refl _, h⟩
  | case2 fresh found u below ih => exact ih h.leave
  | case3 fresh found u next rest below hpath ih =>
      exact ih (h.close (by simpa using hpath))
  | case4 fresh found u next rest below hpath hfresh ih =>
      rcases ih (h.enter (by simpa using hfresh)) with ⟨entered', left', hsub, hrun⟩
      exact ⟨entered', left', List.Subset.trans (List.subset_append_left _ _) hsub, hrun⟩
  | case5 fresh found u next rest below hpath hfresh ih =>
      exact ih (h.skip (by simpa using hpath) (by simpa using hfresh))

/-- Searching from a start node keeps the invariant, and leaves that node entered. -/
theorem searchFrom (h : Search adj order entered left fresh [] found) (horder : next ∈ order) :
    ∃ entered' left', entered ⊆ entered' ∧ next ∈ entered' ∧
      Search adj order entered' left' (searchFrom adj (fresh, found) next).1 []
        (searchFrom adj (fresh, found) next).2 := by
  unfold Graph.searchFrom
  split
  · rename_i hfresh
    rcases (h.start (by simpa using hfresh) horder).run with ⟨entered', left', hsub, hrun⟩
    refine ⟨entered', left', List.Subset.trans (List.subset_append_left _ _) hsub, ?_, hrun⟩
    exact hsub (by simp)
  · rename_i hfresh
    have hentered : next ∈ entered :=
      (h.cover next (Adjacency.mem_mentioned_of_mem horder)).resolve_left (by simpa using hfresh)
    exact ⟨entered, left, List.Subset.refl _, hentered, h⟩

/-- Searching from each of some start nodes keeps the invariant, and leaves them all entered. -/
theorem searchAll (h : Search adj order entered left fresh [] found) {starts : List String}
    (hstarts : starts ⊆ order) :
    ∃ entered' left', entered ⊆ entered' ∧ starts ⊆ entered' ∧
      Search adj order entered' left' (starts.foldl (Graph.searchFrom adj) (fresh, found)).1 []
        (starts.foldl (Graph.searchFrom adj) (fresh, found)).2 := by
  induction starts generalizing entered left fresh found with
  | nil => exact ⟨entered, left, List.Subset.refl _, List.nil_subset _, h⟩
  | cons s starts ih =>
      rw [List.cons_subset] at hstarts
      rcases h.searchFrom hstarts.1 with ⟨entered₁, left₁, hsub₁, hs, h₁⟩
      rcases ih h₁ hstarts.2 with ⟨entered₂, left₂, hsub₂, hrest, h₂⟩
      refine ⟨entered₂, left₂, List.Subset.trans hsub₁ hsub₂, ?_, h₂⟩
      exact List.cons_subset.2 ⟨hsub₂ hs, hrest⟩

/-- At the end of a search, whatever was entered was left, and so were its targets. -/
theorem mem_left_of_leads (h : Search adj order entered left fresh [] found) {u v : String}
    (hu : u ∈ left) (huv : adj.Leads u v) : v ∈ left := by
  have hleft : ∀ w, w ∈ entered → w ∈ left := fun w hw => h.entered_perm.mem_iff.1 hw
  have hclosing : IsClosing found u v → v ∈ left := by
    rintro ⟨c, hc, hclose⟩
    exact hleft v ((h.found_sublist c hc).subset (List.mem_of_mem_head? hclose.2))
  by_cases hcase : IsClosing found u v
  · exact hclosing hcase
  · exact h.settled.mem_of_transGen hu (TransGen.single ⟨huv, hcase⟩)

end Search

/-! ## All start nodes -/

/-- What the search from all start nodes ends with: an invariant in which everything accessible was
left. -/
theorem exists_search_cyclesFrom (order : List String) (adj : Adjacency) :
    ∃ entered left fresh, Search adj order entered left fresh [] (cyclesFrom order adj) ∧
      ∀ v, adj.Accessible order v → v ∈ left := by
  rcases (Search.initial adj order).searchAll (List.Subset.refl order) with
    ⟨entered, left, _, horder, hrun⟩
  refine ⟨entered, left, _, hrun, ?_⟩
  intro v hv
  refine hv.of_closed ?_ fun a b ha hab => hrun.mem_left_of_leads ha hab
  intro s hs
  exact hrun.entered_perm.mem_iff.1 (horder hs)

/-- The edges of a graph without those that close one of some cycles. -/
def WithoutClosing (adj : Adjacency) (cycles : List Cycle) (u v : String) : Prop :=
  adj.Leads u v ∧ ¬ ∃ c ∈ cycles, Closes c.nodes u v

/-- The cycles of a graph are those that the search finds. -/
theorem withoutClosing_detectCycles (critical : Int) (order : List String) (adj : Adjacency) :
    WithoutClosing adj (detectCycles critical order adj) = Remains adj (cyclesFrom order adj) := by
  funext u v
  simp [WithoutClosing, Remains, IsClosing, detectCycles]

/-- A cycle that is found is a directed cycle through something accessible. -/
theorem exists_transGen_of_mem_cyclesFrom {order : List String} {adj : Adjacency}
    {c : List String} (hc : c ∈ cyclesFrom order adj) :
    ∃ v, adj.Accessible order v ∧ TransGen adj.Leads v v := by
  rcases exists_search_cyclesFrom order adj with ⟨entered, left, fresh, hrun, _⟩
  rcases (hrun.found_walk c hc).exists_transGen with ⟨v, hv, hcycle⟩
  exact ⟨v, hrun.accessible v ((hrun.found_sublist c hc).subset hv), hcycle⟩

/-- Without the closing edges of the cycles that are found, no directed cycle is accessible; and no
cycle is found exactly if no directed cycle is accessible. -/
theorem detectCycles_complete (critical : Int) (order : List String) (adj : Adjacency) :
    (∀ v, adj.Accessible order v →
      ¬ TransGen (WithoutClosing adj (detectCycles critical order adj)) v v) ∧
    (detectCycles critical order adj = [] ↔
      ¬ ∃ v, adj.Accessible order v ∧ TransGen adj.Leads v v) := by
  have hacyclic : ∀ v, adj.Accessible order v →
      ¬ TransGen (Remains adj (cyclesFrom order adj)) v v := by
    intro v hv
    rcases exists_search_cyclesFrom order adj with ⟨entered, left, fresh, hrun, hleft⟩
    exact hrun.left_acyclic (hleft v hv)
  refine ⟨?_, ?_, ?_⟩
  · rwa [withoutClosing_detectCycles]
  · rintro hnone ⟨v, hv, hcycle⟩
    have hempty : cyclesFrom order adj = [] := by simpa [detectCycles] using hnone
    rw [hempty] at hacyclic
    have hremains : adj.Leads ≤ Remains adj [] := fun a b hab => ⟨hab, by simp [IsClosing]⟩
    exact hacyclic v hv (TransGen.mono hremains v v hcycle)
  · intro hnone
    have hempty : cyclesFrom order adj = [] := by
      rw [List.eq_nil_iff_forall_not_mem]
      intro c hc
      exact hnone (exists_transGen_of_mem_cyclesFrom hc)
    simp [detectCycles, hempty]

end Graph
end CrossAudit
