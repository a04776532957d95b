import CrossAudit.Proofs.Entity.Naming
import CrossAudit.Proofs.Wire.LastLine
import CrossAudit.Report.Merge
import Mathlib.Data.List.Nodup

/-!
# Names are unique within a run

Within one language names come from one pool, also those that an external analyzer brings along.
Names of different languages differ in their first part.

Main results:

- Theorem `handed_nameAll`: the entities of an external analyzer get names that were free, each
  once.
- Theorem `nodup_ids_merge`: no two entities of a merged report have the same name.
-/

namespace CrossAudit

open IdPool

/-! ## External analyzers -/

namespace Wire

variable {language : String}

/-- The name of an entity is claimed for a base that starts with the language. -/
theorem Entity.exists_takeId_eq (h : ':' ∉ language.toList) (e : Entity) (pool : IdPool) :
    ∃ base, Marks 0 language base ∧ e.takeId language pool = pool.claim base := by
  unfold Entity.takeId
  split
  · split
    · exact ⟨_, marks_zero_baseName h _ _ _ _ _, rfl⟩
    · exact ⟨_, marks_zero_append h _, rfl⟩
  · exact ⟨_, marks_zero_baseName h _ _ _ _ _, rfl⟩

/-- The entities of an external analyzer get names that were free, each once, and all of them tell
the language. -/
theorem handed_nameAll (h : ':' ∉ language.toList) (es : List Entity) (pool : IdPool) :
    (∃ after, Handed pool ((Entity.nameAll language pool es).map (·.id)) after) ∧
      ∀ e ∈ Entity.nameAll language pool es, part 0 e.id = some language.toList := by
  induction es generalizing pool with
  | nil => exact ⟨⟨pool, .nil pool⟩, by simp [Entity.nameAll]⟩
  | cons e es ih =>
      rcases e.exists_takeId_eq h pool with ⟨base, hbase, htake⟩
      rcases ih (pool.claim base).2 with ⟨⟨after, hhanded⟩, hparts⟩
      have hname : Entity.nameAll language pool (e :: es) =
          e.toEntity language (pool.next base) ::
            Entity.nameAll language (pool.claim base).2 es := by
        rw [Entity.nameAll, htake]
        rfl
      rw [hname]
      refine ⟨⟨after, hhanded.cons⟩, ?_⟩
      intro x hx
      rcases List.mem_cons.1 hx with rfl | hx
      · exact hbase.part_next pool
      · exact hparts x hx

end Wire

/-! ## Merged reports -/

namespace Report

/-- The entities of a task come from its files, which are all of its language, or from the response
of an external analyzer. -/
inductive Sourced (t : TaskResult) : Prop where
  | native (w : Workspace) (r : Registry) (files : List String) (y : Extraction.Yield)
      (language : ∀ f ∈ files, ∀ a, r.adapterFor? f = some a → a.language = t.language)
      (extracted : Extraction.attempt w r files = .ok y) (entities : t.entities = y.entities)
  | external (output : String) (response : Wire.Response) (result : Wire.Result)
      (accepted : Wire.Response.ofOutput output = .ok response)
      (carried : response.result = some result)
      (entities : t.entities = (result.toTask t.language).entities)

variable {t : TaskResult}

/-- The entities of a task have distinct names, and all of them tell its language. -/
theorem Sourced.nodup_ids (h : Sourced t) (hcolon : ':' ∉ t.language.toList) :
    (t.entities.map (·.id)).Nodup ∧
      ∀ id ∈ t.entities.map (·.id), part 0 id = some t.language.toList := by
  cases h with
  | native w r files y language extracted entities =>
      rcases Extraction.exists_handed_ofFiles w r files {} with ⟨ids, hhanded, hsub, hparts⟩
      rw [entities, Extraction.eq_run_of_attempt extracted, Extraction.run]
      refine ⟨hhanded.nodup.sublist hsub, fun id hid => ?_⟩
      rcases hparts id (hsub.subset hid) with ⟨f, hf, a, hadapter, hpart⟩
      rw [hpart, language f hf a hadapter]
  | external output response result accepted carried entities =>
      rcases Wire.handed_nameAll hcolon result.entities {} with ⟨⟨after, hhanded⟩, hparts⟩
      rw [entities, Wire.Result.toTask]
      refine ⟨hhanded.nodup, fun id hid => ?_⟩
      rcases List.mem_map.1 hid with ⟨e, he, rfl⟩
      exact hparts e he

/-- If the languages of tasks are distinct and have no colons, no two entities of the merged report
have the same name. -/
theorem nodup_ids_merge {results : List TaskResult} (minimum : String)
    (hdistinct : (results.map (·.language)).Nodup)
    (hcolon : ∀ t ∈ results, ':' ∉ t.language.toList) (hsourced : ∀ t ∈ results, Sourced t) :
    ((merge minimum results).entities.map (·.id)).Nodup := by
  have hperm : (inLanguageOrder results).Perm results := List.mergeSort_perm results _
  have hentities : (merge minimum results).entities.map (·.id) =
      (inLanguageOrder results).flatMap fun t => t.entities.map (·.id) := by
    rw [← List.map_flatMap]
    rfl
  have hids := fun t (ht : t ∈ inLanguageOrder results) =>
    (hsourced t (hperm.subset ht)).nodup_ids (hcolon t (hperm.subset ht))
  rw [hentities, List.nodup_flatMap]
  refine ⟨fun t ht => (hids t ht).1, ?_⟩
  -- Tasks that share a name share its first part, so their languages are the same.
  have hlanguages : (inLanguageOrder results).Pairwise fun t u => t.language ≠ u.language :=
    List.pairwise_map.1 ((hperm.map _).nodup_iff.2 hdistinct)
  refine hlanguages.imp_of_mem fun {t u} ht hu hne => ?_
  intro id hidt hidu
  have hpart := (hids t ht).2 id hidt
  rw [(hids u hu).2 id hidu, Option.some.injEq, String.toList_inj] at hpart
  exact hne hpart.symm

/-- A class without a child that names it. -/
def namelessTree : Syntax.Node :=
  let here : Location := ⟨⟨1, 1⟩, ⟨1, 4⟩⟩
  .mk { kind := "module", first := 0, last := 3, location := here }
    [.mk { kind := "class_definition", first := 0, last := 3, location := here } []]

/-- A file with such a class. -/
def namelessFile : Workspace where
  entries := [(["a.py"], .file "f:1".toUTF8)]
  trees := [("a.py", namelessTree)]

/-- A response with an entity whose name is the second choice for the two others. -/
def crowdedResponse : String :=
  "\x7b\"result\":\x7b\"indexEntries\":[" ++
    "\x7b\"id\":\"function:::1:1#2\",\"name\":\"\",\"file\":\"\"\x7d," ++
    "\x7b\"name\":\"\",\"file\":\"\"\x7d,\x7b\"name\":\"\",\"file\":\"\"\x7d]\x7d\x7d"

theorem nodup_ids_merge_crowded : ∃ python go : TaskResult,
    Sourced python ∧ python.language = "python" ∧
      python.entities.map (·.id) = ["python:module:a.py:a:1:1", "python:class:a.py::1:1",
        "python:module:a.py:a:1:1#2", "python:class:a.py::1:1#2"] ∧
      Sourced go ∧ go.language = "go" ∧
      go.entities.map (·.id) = ["go:function:::1:1#2", "go:function:::1:1", "go:function:::1:1#3"] ∧
      ((merge "warning" [python, go]).entities.map (·.id)).Nodup := by
  have hread : ((Wire.resultOf? crowdedResponse).map fun result =>
      (result.toTask "go").entities.map (·.id)) =
        some ["go:function:::1:1#2", "go:function:::1:1", "go:function:::1:1#3"] := by
    decide +kernel
  rcases Option.map_eq_some_iff.1 hread with ⟨result, hresult, hids⟩
  rcases Wire.exists_ofOutput_of_resultOf? "" (by decide +kernel) hresult with
    ⟨response, haccepted, hcarried⟩
  let y := Extraction.run namelessFile .standard ["a.py", "a.py"]
  let python : TaskResult := { language := "python", entities := y.entities }
  have hextracted : Extraction.attempt namelessFile .standard ["a.py", "a.py"] = .ok y :=
    if_neg (by decide +kernel)
  have hpython : Sourced python :=
    .native namelessFile .standard ["a.py", "a.py"] y (by decide +kernel) hextracted rfl
  have hgo : Sourced (result.toTask "go") :=
    .external _ response result haccepted hcarried rfl
  refine ⟨python, result.toTask "go", hpython, rfl, by decide +kernel, hgo, rfl, hids, ?_⟩
  have hdistinct : ([python, result.toTask "go"].map (·.language)).Nodup := by
    simp [python, Wire.Result.toTask]
  refine nodup_ids_merge "warning" hdistinct ?_ ?_
  · intro t ht
    simp only [List.mem_cons, List.not_mem_nil, or_false] at ht
    rcases ht with rfl | rfl
    · exact (by decide : ':' ∉ "python".toList)
    · exact (by decide : ':' ∉ "go".toList)
  · intro t ht
    simp only [List.mem_cons, List.not_mem_nil, or_false] at ht
    rcases ht with rfl | rfl
    · exact hpython
    · exact hgo

end Report
end CrossAudit
