import CrossAudit.Proofs.Syntax.Conversion

/-!
# The way up from a place

The places above a place of a document belong to the document as well, and the place lies in the
walk from each of them.  Within a document a place is told by the way to it.

Main results:

- Theorem `Document.mem_walk_of_mem_ancestors`: the places above a place belong to the document,
  and their walks meet it.
- Theorem `Document.mem_ancestors_iff`: the places above a place are those whose walks meet it,
  itself apart.
- Theorem `Document.sameAs_iff`: places of a document with one way are one place.
-/

namespace CrossAudit
namespace Syntax

/-! ## One step up -/

namespace Cursor

variable {c d : Cursor}

/-- The ancestors of a child are its parent and those of its parent. -/
theorem ancestors_of_mem_children (h : d ∈ c.children) : d.ancestors = c :: c.ancestors := by
  obtain ⟨place, -, habove⟩ := mem_children_iff.1 h
  rw [ancestors, habove]
  rfl

theorem mem_walk_of_mem_walk {e : Cursor} (hd : d ∈ c.walk) (he : e ∈ d.walk) : e ∈ c.walk := by
  rw [walk_eq_along, mem_along_iff] at hd he ⊢
  exact hd.trans he

theorem self_mem_walk (c : Cursor) : c ∈ c.walk := by
  rw [walk_eq_along, mem_along_iff]

/-- What stands behind a place on a way up is the way up from it. -/
theorem eq_ancestors_of_append {before behind : List Cursor}
    (h : c.ancestors = before ++ d :: behind) : behind = d.ancestors := by
  obtain ⟨node, above⟩ := c
  rw [ancestors] at h
  dsimp only at h
  induction above generalizing before with
  | nil => simp [ancestorsOf] at h
  | cons step rest ih =>
      rw [ancestorsOf] at h
      cases before with
      | nil =>
          obtain ⟨rfl, hbehind⟩ := List.cons.inj h
          exact hbehind.symm
      | cons first before => exact ih (List.cons.inj h).2

/-- The way up is shorter from a place above. -/
theorem length_ancestors_lt (h : d ∈ c.ancestors) :
    d.ancestors.length < c.ancestors.length := by
  obtain ⟨before, behind, hway⟩ := List.append_of_mem h
  rw [← eq_ancestors_of_append hway, hway, List.length_append, List.length_cons]
  omega

/-- A place that is met by the walk from another one is that place or lies below it. -/
theorem eq_or_mem_ancestors_of_mem_walk (h : d ∈ c.walk) : d = c ∨ c ∈ d.ancestors := by
  rw [walk_eq_along, mem_along_iff] at h
  induction h with
  | refl => exact .inl rfl
  | tail _ hlead ih =>
      rw [ancestors_of_mem_children hlead.1, List.mem_cons]
      exact .inr (ih.imp Eq.symm id)

end Cursor

/-! ## Documents -/

namespace Document

variable {d : Document} {b c : Cursor}

/-- The walk meets what the root leads to through kept nodes. -/
theorem mem_walk_iff :
    c ∈ d.walk ↔ Relation.ReflTransGen (Cursor.Leads Node.isKept) (.root d.root) c := by
  rw [walk_eq, Cursor.walk_eq_along, Cursor.mem_along_iff]

theorem nodup_walk (d : Document) : d.walk.Nodup := by
  rw [walk_eq]
  exact Cursor.nodup_along _ _

theorem mem_walk_of_mem_walk (hb : b ∈ d.walk) (hc : c ∈ b.walk) : c ∈ d.walk := by
  rw [walk_eq] at hb ⊢
  exact Cursor.mem_walk_of_mem_walk hb hc

/-- The places above a place of a document belong to the document, and their walks meet it. -/
theorem mem_walk_of_mem_ancestors (hc : c ∈ d.walk) (hb : b ∈ c.ancestors) :
    b ∈ d.walk ∧ c ∈ b.walk := by
  rw [mem_walk_iff] at hc
  induction hc with
  | refl => cases hb
  | @tail a c ha hlead ih =>
      have hlast : c ∈ a.walk := Cursor.mem_along_iff.2 (.single hlead)
      rw [Cursor.ancestors_of_mem_children hlead.1] at hb
      rcases List.mem_cons.1 hb with rfl | hb
      · exact ⟨mem_walk_iff.2 ha, hlast⟩
      · obtain ⟨hwalk, hmeets⟩ := ih hb
        exact ⟨hwalk, Cursor.mem_walk_of_mem_walk hmeets hlast⟩

/-- The places above a place are those whose walks meet it, itself apart. -/
theorem mem_ancestors_iff (hc : c ∈ d.walk) : b ∈ c.ancestors ↔ c ∈ b.walk ∧ c ≠ b := by
  constructor
  · intro hb
    refine ⟨(mem_walk_of_mem_ancestors hc hb).2, ?_⟩
    rintro rfl
    exact absurd (Cursor.length_ancestors_lt hb) (lt_irrefl _)
  · rintro ⟨hmeets, hne⟩
    exact (Cursor.eq_or_mem_ancestors_of_mem_walk hmeets).resolve_left hne

/-- Places of a document with one way are one place. -/
theorem sameAs_iff (hb : b ∈ d.walk) (hc : c ∈ d.walk) : b.sameAs c = true ↔ b = c := by
  have hways : (d.walk.map Cursor.way).Nodup := by
    rw [walk_eq, List.Nodup, List.pairwise_map]
    refine (Cursor.pairwise_precedes_along _ _).imp fun hprecedes hway => ?_
    rw [Cursor.Precedes, hway] at hprecedes
    exact List.lex_irrefl lt_irrefl _ hprecedes
  rw [Cursor.sameAs, beq_iff_eq]
  constructor
  · intro hpath
    refine List.inj_on_of_nodup_map hways hb hc ?_
    rw [Cursor.way, Cursor.way, hpath]
  · exact congrArg Cursor.path

end Document
end Syntax
end CrossAudit
