import CrossAudit.Proofs.Entity.Naming
import CrossAudit.Proofs.Failing
import CrossAudit.Total

/-!
# Files do not depend on each other

All files of a run take their names from one pool, and a file whose extraction fails has taken names
before.  If the paths of the files are distinct and have no colons, the names of one file are never
those of another, so each file yields what it would yield alone.

Main results:

- Theorem `ofFiles_eq_concat`: from a pool without names of the files, the files yield what each of
  them yields alone, one after the other.
- Theorem `attempt_eq_concat`: so does a whole extraction, and it fails exactly if it fails at a
  file.
-/

namespace CrossAudit
namespace Extraction

open IdPool

variable {w : Workspace} {r : Registry} {files : List String}

/-! ## Yields side by side -/

/-- What several extractions found, one after the other. -/
def Yield.concat (ys : List Yield) : Yield where
  entities := ys.flatMap (·.entities)
  errors := ys.flatMap (·.errors)
  processed := total (ys.map (·.processed))

@[simp]
theorem Yield.concat_nil : Yield.concat [] = {} :=
  rfl

@[simp]
theorem Yield.concat_cons (y : Yield) (ys : List Yield) :
    Yield.concat (y :: ys) = y.append (Yield.concat ys) :=
  rfl

@[simp]
theorem Yield.nil_append (y : Yield) : Yield.append {} y = y := by
  simp [Yield.append]

@[simp]
theorem Yield.append_nil (y : Yield) : y.append {} = y := by
  simp [Yield.append]

/-! ## Files one after the other -/

theorem run_singleton_of_none {file : String} (h : r.adapterFor? file = none) :
    run w r [file] = {} := by
  simp [run, ofFiles, h]

theorem run_singleton_of_some {file : String} {a : Adapter} (h : r.adapterFor? file = some a) :
    run w r [file] = (ofFile w a file {}).1 := by
  simp [run, ofFiles, h]

/-- From a pool without names of the files, the files yield what each of them yields alone, one
after the other. -/
theorem ofFiles_eq_concat (hdistinct : (files.map normalPath).Nodup)
    (hcolon : ∀ f ∈ files, ':' ∉ (normalPath f).toList) (pool : IdPool)
    (hpool : ∀ f ∈ files, ∀ id ∈ pool.used, part 2 id ≠ some (normalPath f).toList) :
    (ofFiles w r files pool).1 = Yield.concat (files.map fun f => run w r [f]) := by
  induction files generalizing pool with
  | nil => rfl
  | cons file rest ih =>
      rw [List.map_cons, List.nodup_cons] at hdistinct
      have hcolon' : ∀ f ∈ rest, ':' ∉ (normalPath f).toList :=
        fun f hf => hcolon f (List.mem_cons_of_mem file hf)
      have hpool' : ∀ f ∈ rest, ∀ id ∈ pool.used, part 2 id ≠ some (normalPath f).toList :=
        fun f hf => hpool f (List.mem_cons_of_mem file hf)
      cases hadapter : r.adapterFor? file with
      | none =>
          simp only [ofFiles, hadapter, List.map_cons, Yield.concat_cons,
            run_singleton_of_none hadapter, Yield.nil_append]
          exact ih hdistinct.2 hcolon' pool hpool'
      | some a =>
          -- No name of this file is in use, as in the empty pool.
          have hagree : Agree 2 (normalPath file) pool {} := by
            intro id hid
            have hfree : id ∉ pool.used := fun hmem => hpool file List.mem_cons_self id hmem hid
            simp [hfree]
          have hhere := ofFile_congr (w := w) (a := a) (hcolon file List.mem_cons_self) hagree
          rcases exists_handed_ofFile w a file pool with ⟨ids, hhanded, _, hparts⟩
          -- The names that this file takes are no names of the others.
          have hothers := ih hdistinct.2 hcolon' (ofFile w a file pool).2 (by
            intro f hf id hid
            rw [hhanded.used_eq, List.mem_append, List.mem_reverse] at hid
            rcases hid with hid | hid
            · rw [(hparts id hid).2 (hcolon file List.mem_cons_self)]
              intro heq
              have hpath : normalPath file = normalPath f :=
                String.toList_inj.1 (Option.some.inj heq)
              exact hdistinct.1 (List.mem_map.2 ⟨f, hf, hpath.symm⟩)
            · exact hpool' f hf id hid)
          simp only [ofFiles, hadapter, List.map_cons, Yield.concat_cons,
            run_singleton_of_some hadapter, hhere, hothers]

/-! ## A whole extraction -/

/-- Whether a path stops an extraction: it holds a null byte, and the file is to be read. -/
def stops (r : Registry) (file : String) : Bool :=
  (r.adapterFor? file).isSome && Workspace.holdsNull file

theorem attempt_eq (w : Workspace) (r : Registry) (files : List String) :
    attempt w r files = if files.any (stops r) then .error .nullByte else .ok (run w r files) :=
  rfl

/-- If the paths of files are distinct and have no colons, an extraction yields what the extractions
of each file alone yield, one after the other; it fails exactly if one of them does, and none fails
unless a path holds a null byte. -/
theorem attempt_eq_concat (w : Workspace) (r : Registry)
    (hdistinct : (files.map normalPath).Nodup)
    (hcolon : ∀ f ∈ files, ':' ∉ (normalPath f).toList) :
    attempt w r files = (files.mapM fun f => attempt w r [f]).map Yield.concat ∧
      ((∀ f ∈ files, Workspace.holdsNull f = false) → ∃ y, attempt w r files = .ok y) := by
  constructor
  · by_cases hstops : files.any (stops r) = true
    · have hfails : ∃ f ∈ files, Fails (attempt w r [f]) := by
        rcases List.any_eq_true.1 hstops with ⟨f, hf, hstop⟩
        exact ⟨f, hf, .nullByte, by simp [attempt_eq, hstop]⟩
      have hsame : ∀ f ∈ files, ∀ e, attempt w r [f] = .error e → e = .nullByte := by
        intro f _ e he
        rw [attempt_eq] at he
        split at he
        · exact (Except.error.inj he).symm
        · cases he
      rw [mapM_eq_error hfails hsame, attempt_eq, if_pos hstops]
      rfl
    · have halone : ∀ f ∈ files, attempt w r [f] = .ok (run w r [f]) := by
        intro f hf
        have hstop : ¬ stops r f = true := fun h => hstops (List.any_eq_true.2 ⟨f, hf, h⟩)
        simp [attempt_eq, hstop]
      have hrun := ofFiles_eq_concat (w := w) (r := r) hdistinct hcolon {} (by simp)
      rw [mapM_eq_ok_map halone, attempt_eq, if_neg hstops, run, hrun]
      rfl
  · intro hnull
    have hstops : ¬ files.any (stops r) = true := by
      rw [List.any_eq_true]
      rintro ⟨f, hf, hstop⟩
      simp [stops, hnull f hf] at hstop
    exact ⟨run w r files, by rw [attempt_eq, if_neg hstops]⟩

/-- Two functions that neither name nor place tells apart. -/
def twinTree : Syntax.Node :=
  let here : Location := ⟨⟨1, 1⟩, ⟨1, 4⟩⟩
  let twin : Syntax.Node :=
    .mk { kind := "function_definition", first := 0, last := 3, location := here }
      [.mk { kind := "identifier", first := 0, last := 3, role := some "name"
             location := here } []]
  .mk { kind := "module", first := 0, last := 3, location := here } [twin, twin]

/-- Two files with such functions, whose name has a colon. -/
def twinFiles : Workspace where
  entries := [(["a.py"], .file "f:1".toUTF8), (["lib", "a.py"], .file "f:1".toUTF8)]
  trees := [("a.py", twinTree), ("lib/a.py", twinTree)]

/-- The paths of these files, and of one that is missing. -/
def twinPaths : List String :=
  ["a.py", "./lib/a.py", "gone.ts"]

theorem attempt_eq_concat_twins :
    (twinPaths.map normalPath).Nodup ∧ (∀ f ∈ twinPaths, ':' ∉ (normalPath f).toList) ∧
      ∃ y, attempt twinFiles .standard twinPaths = .ok y ∧
        y.entities.map (·.id) = ["python:module:a.py:a:1:1", "python:function:a.py:f:1:1:1",
          "python:function:a.py:f:1:1:1#2", "python:module:lib/a.py:a:1:1",
          "python:function:lib/a.py:f:1:1:1", "python:function:lib/a.py:f:1:1:1#2"] ∧
        y.errors.length = 1 ∧ y.processed = 2 ∧
        (twinPaths.mapM fun f => attempt twinFiles .standard [f]).map Yield.concat = .ok y := by
  have hdistinct : (twinPaths.map normalPath).Nodup := by decide +kernel
  have hcolon : ∀ f ∈ twinPaths, ':' ∉ (normalPath f).toList := by decide +kernel
  rcases attempt_eq_concat twinFiles .standard hdistinct hcolon with ⟨hconcat, hreturns⟩
  rcases hreturns (by decide) with ⟨y, hy⟩
  have hrun : y = run twinFiles .standard twinPaths := eq_run_of_attempt hy
  refine ⟨hdistinct, hcolon, y, hy, ?_, ?_, ?_, hconcat.symm.trans hy⟩
  · rw [hrun]
    decide +kernel
  · rw [hrun]
    decide +kernel
  · rw [hrun]
    decide +kernel

end Extraction
end CrossAudit
