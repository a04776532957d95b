import CrossAudit.Proofs.Entity.Naming
import CrossAudit.Proofs.Failing
import CrossAudit.Proofs.Pass.Files
import CrossAudit.Proofs.Repetition
import CrossAudit.Task.Native

/-!
# What an analysis in process complains about

Passes and extraction complain about files: one could not be read, parsed or analyzed.  Only the
analysis as a whole adds something else, that it was cancelled.

Main results:

- Theorem `Native.aboutFiles_runPasses`: passes complain about files only.
- Theorem `Native.kind_of_mem_analyze`: so does an analysis, unless it was cancelled.
-/

namespace CrossAudit

/-- What tells records apart: the file, the kind and the wording. -/
def ErrorRecord.key (e : ErrorRecord) : Option String × String × String :=
  (e.file, e.kind, e.error)

/-! ## Complaints about files -/

/-- Complaints about files only: a file could not be read, parsed or analyzed. -/
def AboutFiles (errors : List ErrorRecord) : Prop :=
  ∀ e ∈ errors, e.kind ∈ ["read", "parse", "analysis"]

/-- No errors are about files. -/
theorem aboutFiles_nil : AboutFiles [] := by
  simp [AboutFiles]

/-- Errors about files stay so together. -/
theorem AboutFiles.append {xs ys : List ErrorRecord} (h : AboutFiles xs) (h' : AboutFiles ys) :
    AboutFiles (xs ++ ys) :=
  List.forall_mem_append.2 ⟨h, h'⟩

/-- Errors about files do not tell of a cancelled run. -/
theorem AboutFiles.kind_ne_cancelled {errors : List ErrorRecord} (h : AboutFiles errors) :
    ∀ e ∈ errors, e.kind ≠ "cancelled" := by
  intro e he hkind
  have hmem := h e he
  rw [hkind] at hmem
  simp at hmem

/-- The error of a file is about that file. -/
theorem aboutFiles_fileError {a : Adapter} {path kind error : String}
    (h : kind ∈ ["read", "parse", "analysis"]) :
    AboutFiles [Extraction.fileError a path kind error] := by
  intro e he
  rw [List.mem_singleton.1 he]
  exact h

/-- Errors of the parser are about files. -/
theorem aboutFiles_parseErrors (a : Adapter) (d : Syntax.Document) :
    AboutFiles (Extraction.parseErrors a d) := by
  intro e he
  simp [Pass.kind_of_mem_parseErrors he]

namespace Pass

/-- The errors of a pass on one file are about files. -/
theorem aboutFiles_onFile (p : Pass) (w : Workspace) (config : Json) (a : Adapter)
    (file : String) : AboutFiles (p.onFile w config a file).errors := by
  cases hread : w.read (normalPath file) with
  | error e =>
      rw [onFile_of_unreadable hread]
      exact aboutFiles_fileError (by simp)
  | ok content =>
      have hparse := aboutFiles_parseErrors a (w.parse a (normalPath file) content)
      rw [onFile_of_read hread]
      cases p.onDocument a (w.parse a (normalPath file) content) config with
      | ok findings => exact hparse
      | error fault => exact hparse.append (aboutFiles_fileError (by simp))

/-- The rest of the files adds complaints about files only. -/
theorem aboutFiles_analyzeRest {σ : Type} {p : Pass} {w : Workspace} {config : Json}
    {listener : Listener σ} {total : Nat} {cs : List (Adapter × String)} {done : Nat}
    {before out : Outcome} {s : σ} (hbefore : AboutFiles before.errors)
    (h : (p.analyzeRest w config listener total cs done before s).1 = .ok out) :
    AboutFiles out.errors := by
  induction cs generalizing done before s with
  | nil =>
      rw [analyzeRest, Except.ok.injEq] at h
      exact h ▸ hbefore
  | cons c rest ih =>
      rcases c with ⟨a, file⟩
      rw [analyzeRest] at h
      split at h
      · cases h
      · exact ih (hbefore.append (aboutFiles_onFile p w config a file)) h

/-- The errors of a pass over all files are about files. -/
theorem aboutFiles_analyze {σ : Type} {p : Pass} {w : Workspace} {r : Registry}
    {listener : Listener σ} {files : List String} {config : Json} {s : σ} {out : Outcome}
    (h : (p.analyze w r listener files config s).1 = .ok out) : AboutFiles out.errors :=
  aboutFiles_analyzeRest aboutFiles_nil h

end Pass

namespace Extraction

/-- The errors of the extraction from one file are about files. -/
theorem aboutFiles_ofFile (w : Workspace) (a : Adapter) (file : String) (pool : IdPool) :
    AboutFiles (ofFile w a file pool).1.errors := by
  cases hread : w.read (normalPath file) with
  | error e =>
      rw [ofFile_of_unreadable hread]
      exact aboutFiles_fileError (by simp)
  | ok content =>
      have hparse := aboutFiles_parseErrors a (w.parse a (normalPath file) content)
      rw [ofFile_of_read hread]
      cases a.apiCalls (w.parse a (normalPath file) content) with
      | ok calls => exact hparse
      | error fault => exact hparse.append (aboutFiles_fileError (by simp))

/-- The errors of the extraction from all files are about files. -/
theorem aboutFiles_ofFiles (w : Workspace) (r : Registry) (files : List String) (pool : IdPool) :
    AboutFiles (ofFiles w r files pool).1.errors := by
  induction files generalizing pool with
  | nil => exact aboutFiles_nil
  | cons file rest ih =>
      cases hadapter : r.adapterFor? file with
      | none =>
          simp only [ofFiles, hadapter]
          exact ih pool
      | some a =>
          have hhere := aboutFiles_ofFile w a file pool
          simp only [ofFiles, hadapter]
          generalize ofFile w a file pool = read at hhere ⊢
          exact hhere.append (ih read.2)

/-- The errors of an extraction that succeeds are about files. -/
theorem aboutFiles_attempt {w : Workspace} {r : Registry} {files : List String} {y : Yield}
    (h : attempt w r files = .ok y) : AboutFiles y.errors := by
  rw [eq_run_of_attempt h]
  exact aboutFiles_ofFiles w r files {}

end Extraction

namespace Native

/-- The records without repetitions are the first ones of their keys. -/
theorem dedupe_eq (errors : List ErrorRecord) : dedupe errors = firstBy ErrorRecord.key errors := by
  rw [dedupe, firstBy]
  congr 1
  funext kept e
  have hany : (kept.any fun k => k.file == e.file && k.kind == e.kind && k.error == e.error) =
      true ↔ e.key ∈ kept.map ErrorRecord.key := by
    simp only [List.any_eq_true, Bool.and_eq_true, beq_iff_eq, List.mem_map, ErrorRecord.key,
      Prod.mk.injEq, and_assoc]
  rw [addRecord]
  by_cases hkey : e.key ∈ kept.map ErrorRecord.key
  · rw [if_pos hkey, if_pos (hany.2 hkey)]
  · rw [if_neg hkey, if_neg (mt hany.1 hkey)]

/-- Dropping repeated errors brings in none. -/
theorem mem_of_mem_dedupe {errors : List ErrorRecord} {e : ErrorRecord} (h : e ∈ dedupe errors) :
    e ∈ errors := by
  rw [dedupe_eq] at h
  exact mem_of_mem_firstBy h

/-- The errors of all passes are about files. -/
theorem aboutFiles_runPasses {w : Workspace} {r : Registry} {files : List String} {config : Json}
    {passes : List Pass} {signal : Signal} {out : Pass.Outcome}
    (h : (runPasses w r files config passes signal).1 = .ok out) : AboutFiles out.errors := by
  induction passes generalizing signal out with
  | nil =>
      cases h
      exact aboutFiles_nil
  | cons p rest ih =>
      rw [runPasses] at h
      split at h
      · cases h
        exact aboutFiles_nil
      · cases hpass : p.analyze w r monitor files config ([], signal) with
        | mk done heard =>
            rw [hpass] at h
            cases done with
            | error f => cases h
            | ok here =>
                rcases map_eq_ok_iff.1 h with ⟨others, hothers, rfl⟩
                have hhere : AboutFiles here.errors :=
                  Pass.aboutFiles_analyze (congrArg Prod.fst hpass)
                exact hhere.append (ih hothers)

/-- The errors of the extraction in a task are about files. -/
theorem aboutFiles_extract {w : Workspace} {r : Registry} {files : List String} {options : Json}
    {signal : Signal} {found : Extraction.Yield}
    (h : extract w r files options signal = .ok found) : AboutFiles found.errors := by
  unfold extract at h
  split at h
  · exact Extraction.aboutFiles_attempt h
  · cases h
    exact aboutFiles_nil

/-- An analysis in process complains about files, or says that it was cancelled. -/
theorem kind_of_mem_analyze {w : Workspace} {r : Registry} {language : String}
    {files : List String} {options : Json} {signal : Signal} {result : TaskResult}
    (h : (analyze w r language files options signal).result = .ok result) :
    ∀ e ∈ result.errors, e.kind ∈ ["read", "parse", "analysis", "cancelled"] := by
  cases hnames : passNames options with
  | error f => simp [analyze, hnames] at h
  | ok names =>
      simp only [analyze, hnames] at h
      rcases bind_eq_ok_iff.1 h with ⟨out, hout, h⟩
      rcases bind_eq_ok_iff.1 h with ⟨found, hfound, h⟩
      cases h
      have hfiles := (aboutFiles_runPasses hout).append (aboutFiles_extract hfound)
      intro e he
      rcases List.mem_append.1 (mem_of_mem_dedupe he) with hfile | hcancelled
      · exact List.mem_append_left ["cancelled"] (hfiles e hfile)
      · unfold cancellation at hcancelled
        split at hcancelled
        · rw [List.mem_singleton.1 hcancelled]
          simp
        · cases hcancelled

end Native

end CrossAudit
