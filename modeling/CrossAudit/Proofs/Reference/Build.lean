import CrossAudit.Proofs.Assoc
import CrossAudit.Proofs.Reference.Inference
import Mathlib.Algebra.Order.Ring.Rat

/-!
# The references of a list of entities

References are kept in a table, one for each source, target and kind.  After every step the table
holds, for each such key that was seen, one of the references that were seen with it, and none of
those is more confident.  From this and from what the passes infer it follows what `build` returns.

Main results:

- Theorem `keeps_foldl_addBest`: the table keeps a most confident reference for each key.
- Theorem `build_correct`: the references that `build` returns join given entities, have distinct
  keys, and are the most confident ones that are inferred.
-/

namespace CrossAudit

/-! ## The order of confidences -/

namespace Binary64

variable {x y z : Binary64}

/-- A finite number is at most another one. -/
def Le (x y : Binary64) : Prop :=
  ∃ p q, x.value? = some p ∧ y.value? = some q ∧ p ≤ q

/-- No number is less than itself. -/
theorem lt_irrefl (x : Binary64) : x.lt x = false := by
  cases x <;> simp [lt]

/-- The order of numbers is transitive. -/
theorem lt_trans (hxy : x.lt y = true) (hyz : y.lt z = true) : x.lt z = true := by
  cases x <;> cases y <;> cases z <;> simp_all [lt]
  exact hxy.trans hyz

/-- Of finite numbers, one that is not greater is at most the other. -/
theorem le_of_lt_eq_false (hx : x.value?.isSome = true) (hy : y.value?.isSome = true)
    (h : y.lt x = false) : x.Le y := by
  cases x with
  | finite s a =>
      cases y with
      | finite t b =>
          refine ⟨_, _, rfl, rfl, ?_⟩
          simpa [lt] using h
      | _ => simp [value?] at hy
  | _ => simp [value?] at hx

end Binary64

namespace Reference

/-- Every confidence that a pass gives is finite. -/
theorem value?_isSome_of_mem_confidences :
    ∀ c ∈ confidences, c.value?.isSome = true := by
  decide +kernel

/-! ## The table of references -/

/-- A table from keys to references. -/
abbrev Table := List ((String × String × String) × Reference)

/-- A table keeps, of the references seen so far, a most confident one for each key. -/
structure Keeps (seen : List Reference) (table : Table) : Prop where
  keys_nodup : (table.map (·.1)).Nodup
  sound : ∀ k kept, table.lookup k = some kept → kept ∈ seen ∧ kept.key = k
  best : ∀ r ∈ seen, ∃ kept, table.lookup r.key = some kept ∧
    kept.confidence.lt r.confidence = false

variable {seen rs : List Reference} {table : Table} {r : Reference}

/-- A reference changes the entry of its own key only. -/
theorem lookup_addBest_of_ne {k : String × String × String} (hk : k ≠ r.key) :
    (addBest table r).lookup k = table.lookup k := by
  rw [addBest, Assoc.lookup_update, if_neg (by simpa using hk)]

/-- What is kept for the key of a new reference: it or the old one, and whatever is more confident
than that is more confident than both. -/
theorem exists_lookup_addBest (table : Table) (r : Reference) :
    ∃ kept, (addBest table r).lookup r.key = some kept ∧
      (kept = r ∨ table.lookup r.key = some kept) ∧ kept.confidence.lt r.confidence = false ∧
      ∀ old, table.lookup r.key = some old → ∀ c, kept.confidence.lt c = true →
        old.confidence.lt c = true := by
  cases hold : table.lookup r.key with
  | none =>
      refine ⟨r, ?_, Or.inl rfl, Binary64.lt_irrefl _, by simp⟩
      simp [addBest, Assoc.lookup_update, hold]
  | some old =>
      by_cases hlt : old.confidence.lt r.confidence = true
      · refine ⟨r, ?_, Or.inl rfl, Binary64.lt_irrefl _, ?_⟩
        · simp [addBest, Assoc.lookup_update, hold, hlt]
        · rintro _ ⟨⟩ c hc
          exact Binary64.lt_trans hlt hc
      · refine ⟨old, ?_, Or.inr rfl, Bool.eq_false_of_not_eq_true hlt, ?_⟩
        · simp [addBest, Assoc.lookup_update, hold, hlt]
        · rintro _ ⟨⟩ c hc
          exact hc

namespace Keeps

/-- Before any reference is seen an empty table keeps the best. -/
theorem nil : Keeps [] [] :=
  ⟨List.nodup_nil, by simp, by simp⟩

/-- Adding a reference keeps a most confident one for each key. -/
theorem addBest (h : Keeps seen table) (r : Reference) :
    Keeps (seen ++ [r]) (addBest table r) := by
  rcases exists_lookup_addBest table r with ⟨new, hnew, hsource, hbest, hmore⟩
  refine ⟨Assoc.nodup_keys_update _ _ _ h.keys_nodup, ?_, ?_⟩
  · intro k kept hkept
    by_cases hk : k = r.key
    · subst hk
      rw [hnew, Option.some.injEq] at hkept
      subst hkept
      rcases hsource with rfl | hold
      · exact ⟨by simp, rfl⟩
      · exact ⟨List.mem_append_left _ (h.sound _ _ hold).1, (h.sound _ _ hold).2⟩
    · rw [lookup_addBest_of_ne hk] at hkept
      exact ⟨List.mem_append_left _ (h.sound _ _ hkept).1, (h.sound _ _ hkept).2⟩
  · intro p hp
    by_cases hk : p.key = r.key
    · rw [hk]
      refine ⟨new, hnew, ?_⟩
      rcases List.mem_append.1 hp with hp | hp
      · rcases h.best p hp with ⟨old, hold, holdbest⟩
        rw [hk] at hold
        by_contra hlt
        rw [hmore old hold _ (by simpa using hlt)] at holdbest
        cases holdbest
      · rw [List.mem_singleton.1 hp]
        exact hbest
    · have hp' : p ∈ seen := by
        rcases List.mem_append.1 hp with hp | hp
        · exact hp
        · exact absurd (congrArg key (List.mem_singleton.1 hp)) hk
      rw [lookup_addBest_of_ne hk]
      exact h.best p hp'

/-- A table keeps the best while references are added one by one. -/
theorem foldl (h : Keeps seen table) (rs : List Reference) :
    Keeps (seen ++ rs) (rs.foldl Reference.addBest table) := by
  induction rs generalizing seen table with
  | nil => simpa using h
  | cons r rs ih => simpa using ih (h.addBest r)

end Keeps

/-- The table keeps a most confident reference for each key. -/
theorem keeps_foldl_addBest (rs : List Reference) : Keeps rs (rs.foldl addBest []) := by
  simpa using Keeps.nil.foldl rs

/-! ## The references that are kept -/

/-- The strongest references are those that the table has in the end. -/
theorem mem_strongest_iff : r ∈ strongest rs ↔ (rs.foldl addBest []).lookup r.key = some r := by
  have hkeeps := keeps_foldl_addBest rs
  rw [Assoc.lookup_eq_some_iff_mem hkeeps.keys_nodup, strongest, List.mem_map]
  constructor
  · rintro ⟨⟨k, kept⟩, hmem, rfl⟩
    have hlookup := (Assoc.lookup_eq_some_iff_mem hkeeps.keys_nodup _ _).2 hmem
    rw [(hkeeps.sound k kept hlookup).2]
    exact hmem
  · intro hmem
    exact ⟨_, hmem, rfl⟩

/-- The strongest references are among those that were given. -/
theorem mem_of_mem_strongest (h : r ∈ strongest rs) : r ∈ rs :=
  ((keeps_foldl_addBest rs).sound _ _ (mem_strongest_iff.1 h)).1

/-- No two references that are kept have the same key. -/
theorem nodup_keys_strongest (rs : List Reference) : ((strongest rs).map key).Nodup := by
  have hkeeps := keeps_foldl_addBest rs
  have hkeys : (strongest rs).map key = (rs.foldl addBest []).map (·.1) := by
    rw [strongest, List.map_map]
    refine List.map_congr_left fun p hp => ?_
    have hlookup := (Assoc.lookup_eq_some_iff_mem hkeeps.keys_nodup p.1 p.2).2 hp
    exact (hkeeps.sound _ _ hlookup).2
  rw [hkeys]
  exact hkeeps.keys_nodup

/-- For each reference one with its key is kept, and that is not less confident. -/
theorem exists_mem_strongest (hr : r ∈ rs) :
    ∃ kept ∈ strongest rs, kept.key = r.key ∧ kept.confidence.lt r.confidence = false := by
  have hkeeps := keeps_foldl_addBest rs
  rcases hkeeps.best r hr with ⟨kept, hlookup, hbest⟩
  have hkey : kept.key = r.key := (hkeeps.sound _ _ hlookup).2
  refine ⟨kept, mem_strongest_iff.2 ?_, hkey, hbest⟩
  rw [hkey]
  exact hlookup

/-! ## Building references -/

variable {entities after : List Entity} {refs : List Reference}

/-- What is inferred is what one of the passes infers. -/
theorem mem_inferred_iff (h : inferred entities = .ok rs) : r ∈ rs ↔ Produced entities r := by
  simp only [inferred, bind_eq_ok_iff] at h
  rcases h with ⟨cs, hcalls, is, himports, qs, hrequests, h⟩
  cases h
  simp only [List.mem_append]
  constructor
  · rintro (((hr | hr) | hr) | hr)
    · exact .call hcalls hr
    · exact .base hr
    · exact .imported himports hr
    · exact .request hrequests hr
  · rintro (⟨hcalls', hr⟩ | hr | ⟨himports', hr⟩ | ⟨hrequests', hr⟩)
    · rw [hcalls, Except.ok.injEq] at hcalls'
      simp [hcalls', hr]
    · simp [hr]
    · rw [himports, Except.ok.injEq] at himports'
      simp [himports', hr]
    · rw [hrequests, Except.ok.injEq] at hrequests'
      simp [hrequests', hr]

/-- A build that succeeds gives the strongest of the inferred references. -/
theorem exists_inferred_of_build (h : build entities = .ok (refs, after)) :
    ∃ rs, inferred entities = .ok rs ∧ refs = strongest rs := by
  rw [build, bind_eq_ok_iff] at h
  rcases h with ⟨rs, hrs, h⟩
  cases h
  exact ⟨rs, hrs, rfl⟩

/-- A reference has its two ends among the entities, and tells their languages. -/
structure Grounded (entities : List Entity) (r : Reference) : Prop where
  source_mem : r.sourceId ∈ entities.map (·.id)
  target_mem : r.targetId ∈ entities.map (·.id)
  source_language : ∀ e ∈ entities, e.id = r.sourceId → e.language = r.sourceLanguage
  target_language : ∀ e ∈ entities, e.id = r.targetId → e.language = r.targetLanguage

/-- If no two entities have the same name, what a pass infers is grounded. -/
theorem Joins.grounded {type : String} (hdistinct : (entities.map (·.id)).Nodup)
    (h : Joins entities type r) : Grounded entities r := by
  rcases h with ⟨source, hsource, target, htarget, sure, _, protocol, metadata, rfl, _⟩
  have heq : ∀ e ∈ entities, ∀ e' ∈ entities, e.id = e'.id → e = e' :=
    List.inj_on_of_nodup_map hdistinct
  refine ⟨List.mem_map.2 ⟨source, hsource, rfl⟩, List.mem_map.2 ⟨target, htarget, rfl⟩, ?_, ?_⟩
  · intro e he hid
    rw [heq e he source hsource hid]
    rfl
  · intro e he hid
    rw [heq e he target htarget hid]
    rfl

/-- A reference that joins entities by some type has that type. -/
theorem Joins.type_eq {type : String} (h : Joins entities type r) : r.type = type := by
  rcases h with ⟨source, _, target, _, sure, _, protocol, metadata, rfl, _⟩
  rfl

/-- Except by imports, no entity is joined to itself. -/
theorem Joins.ends_ne {type : String} (h : Joins entities type r) (htype : type ∈ properTypes) :
    r.sourceId ≠ r.targetId := by
  rcases h with ⟨source, _, target, _, sure, _, protocol, metadata, rfl, hne⟩
  exact (hne htype).symm

/-- The confidence of a reference is one of those in use. -/
theorem Joins.confidence_mem {type : String} (h : Joins entities type r) :
    r.confidence ∈ confidences := by
  rcases h with ⟨source, _, target, _, sure, hsure, protocol, metadata, rfl, _⟩
  exact hsure

/-- References are faithful to entities: each is inferred by some pass, has its ends and their
languages from the entities, and is of one of five kinds; no two have the same key; for each key
that a pass produces there is exactly one, with the greatest confidence that is produced for that
key; and only a request leads from an entity to itself. -/
structure Faithful (entities : List Entity) (refs : List Reference) : Prop where
  produced : ∀ r ∈ refs, Produced entities r
  grounded : ∀ r ∈ refs, Grounded entities r
  type_mem : ∀ r ∈ refs, r.type ∈ inferredTypes
  keys_nodup : (refs.map key).Nodup
  strongest : ∀ r, Produced entities r → ∃ kept ∈ refs, kept.key = r.key ∧
    (∀ other ∈ refs, other.key = r.key → other = kept) ∧
    ∀ p, Produced entities p → p.key = r.key → p.confidence.Le kept.confidence
  ends_ne : ∀ r ∈ refs, r.type ∈ properTypes → r.sourceId ≠ r.targetId

/-- If no two entities have the same name, the references that are built join given entities, have
distinct keys, and are the most confident ones that are inferred. -/
theorem build_correct (hdistinct : (entities.map (·.id)).Nodup)
    (h : build entities = .ok (refs, after)) : Faithful entities refs := by
  rcases exists_inferred_of_build h with ⟨rs, hrs, rfl⟩
  have hproduced : ∀ r ∈ Reference.strongest rs, Produced entities r := fun r hr =>
    (mem_inferred_iff hrs).1 (mem_of_mem_strongest hr)
  have hfinite : ∀ r, Produced entities r → r.confidence.value?.isSome = true := by
    intro r hr
    rcases hr.exists_joins with ⟨type, _, hjoins⟩
    exact value?_isSome_of_mem_confidences _ hjoins.confidence_mem
  have hinj := List.inj_on_of_nodup_map (nodup_keys_strongest rs)
  refine ⟨hproduced, ?_, ?_, nodup_keys_strongest rs, ?_, ?_⟩
  · intro r hr
    rcases (hproduced r hr).exists_joins with ⟨type, _, hjoins⟩
    exact hjoins.grounded hdistinct
  · intro r hr
    rcases (hproduced r hr).exists_joins with ⟨type, htype, hjoins⟩
    rw [hjoins.type_eq]
    exact htype
  · intro r hr
    rcases exists_mem_strongest ((mem_inferred_iff hrs).2 hr) with ⟨kept, hkept, hkey, _⟩
    refine ⟨kept, hkept, hkey, fun other hother heq => hinj hother hkept (heq.trans hkey.symm), ?_⟩
    intro p hp hpkey
    -- The reference kept for the key of `p` is the same one.
    rcases exists_mem_strongest ((mem_inferred_iff hrs).2 hp) with ⟨kept', hkept', hkey', hbest⟩
    have hsame : kept' = kept := hinj hkept' hkept (hkey'.trans (hpkey.trans hkey.symm))
    subst hsame
    exact Binary64.le_of_lt_eq_false (hfinite p hp) (hfinite kept' (hproduced kept' hkept')) hbest
  · intro r hr htype
    rcases (hproduced r hr).exists_joins with ⟨type, _, hjoins⟩
    rw [hjoins.type_eq] at htype
    exact hjoins.ends_ne htype

/-- A class of one language, and one of another that has it as a base twice and calls it. -/
def figures : List Entity :=
  [{ id := "python:a.py:Shape", name := "Shape", language := "python", file := "a.py"
     type := "class", startLine := 1, endLine := 2 },
   { id := "go:b.go:Circle", name := "Circle", language := "go", file := "b.go"
     type := "struct", startLine := 1, endLine := 2, bases := ["Shape", "shapes.Shape[T]"]
     metadata := [("call_names", .arr [.str "shapes.Shape"])] }]

/-- A class in one language that extends and calls one in another: one reference for each key. -/
theorem build_correct_figures : ∃ refs after, build figures = .ok (refs, after) ∧
    refs.map key = [("go:b.go:Circle", "python:a.py:Shape", "calls"),
      ("go:b.go:Circle", "python:a.py:Shape", "extends")] ∧ Faithful figures refs := by
  have hkeys : (build figures).map (fun p => p.1.map key) =
      .ok [("go:b.go:Circle", "python:a.py:Shape", "calls"),
        ("go:b.go:Circle", "python:a.py:Shape", "extends")] := by
    decide +kernel
  rcases map_eq_ok_iff.1 hkeys with ⟨⟨refs, after⟩, hbuild, hrefs⟩
  exact ⟨refs, after, hbuild, hrefs, build_correct (by decide) hbuild⟩

end Reference
end CrossAudit
