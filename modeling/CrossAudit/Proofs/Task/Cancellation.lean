import CrossAudit.Proofs.Entity.Independence
import CrossAudit.Proofs.Task.Complaints

/-!
# Cancelled analyses

A signal can be raised before an analysis starts, or at any progress report of any of its passes.
Passes do not look at it, so one that has begun takes all files; between passes and before the
extraction the analysis stops.  Hence a cancelled analysis has the findings of its first passes and
no entities, and says at the very end that it was cancelled.

Main results:

- Theorem `Signal.raised_reportMany_iff`: when a signal is raised after some reports.
- Theorem `Native.exists_ran_runPasses`: passes that return ran up to the first that found the
  signal raised.
- Theorem `Native.fst_runPasses_of_quiet`: if the signal is not raised in the end, all passes ran.
- Theorem `Native.analyze_cancelled_cleanly`: a cancelled analysis is a clean part of one that is
  not cancelled, and a signal that is never raised changes nothing.
-/

namespace CrossAudit

/-! ## Reports to a signal -/

namespace Signal

/-- Several progress reports. -/
def reportMany : Nat → Signal → Signal
  | 0, s => s
  | n + 1, s => reportMany n s.report

@[simp]
theorem reportMany_zero (s : Signal) : s.reportMany 0 = s :=
  rfl

/-- Reports are made one after another. -/
theorem reportMany_succ (n : Nat) (s : Signal) : s.reportMany (n + 1) = s.report.reportMany n :=
  rfl

/-- Reports in two rounds are reports in one. -/
theorem reportMany_add (m n : Nat) (s : Signal) :
    s.reportMany (m + n) = (s.reportMany m).reportMany n := by
  induction m generalizing s with
  | zero => simp
  | succ m ih => rw [Nat.succ_add, reportMany_succ, reportMany_succ, ih]

/-- A signal is raised after some reports if it was raised before them, or if one of them is the
report at which it is to be raised. -/
theorem raised_reportMany_iff (n : Nat) (s : Signal) :
    (s.reportMany n).raised = true ↔
      s.raised = true ∨ ∃ k, s.raiseAt = some k ∧ s.reports < k ∧ k ≤ s.reports + n := by
  induction n generalizing s with
  | zero =>
      rw [reportMany_zero]
      constructor
      · exact Or.inl
      · rintro (hraised | ⟨k, _, hlt, hle⟩)
        · exact hraised
        · omega
  | succ n ih =>
      have hreport : s.report.raised = true ↔
          s.raised = true ∨ s.raiseAt = some (s.reports + 1) := by
        simp [report]
      have hreports : s.report.reports = s.reports + 1 := rfl
      have hraiseAt : s.report.raiseAt = s.raiseAt := rfl
      rw [reportMany_succ, ih, hreport, hreports, hraiseAt, or_assoc]
      refine or_congr_right ?_
      constructor
      · rintro (hfirst | ⟨k, hk, hlt, hle⟩)
        · exact ⟨_, hfirst, by omega, by omega⟩
        · exact ⟨k, hk, by omega, by omega⟩
      · rintro ⟨k, hk, hlt, hle⟩
        by_cases hfirst : k = s.reports + 1
        · exact Or.inl (hfirst ▸ hk)
        · exact Or.inr ⟨k, hk, by omega, by omega⟩

end Signal

/-! ## One pass -/

namespace Pass

variable {p : Pass} {w : Workspace} {r : Registry} {config : Json} {files : List String}

/-- What a pass makes of all files, one after the other. -/
def whole (p : Pass) (w : Workspace) (r : Registry) (config : Json) (files : List String) :
    Outcome :=
  Outcome.concat ((order r files).map (p.alone w r config))

/-- The findings of outcomes are those of each, in order. -/
theorem Outcome.findings_concat_map {α : Type} (f : α → Outcome) (xs : List α) :
    (Outcome.concat (xs.map f)).findings = xs.flatMap fun x => (f x).findings :=
  List.flatMap_map _ _ xs

/-- The errors of outcomes are those of each, in order. -/
theorem Outcome.errors_concat_map {α : Type} (f : α → Outcome) (xs : List α) :
    (Outcome.concat (xs.map f)).errors = xs.flatMap fun x => (f x).errors :=
  List.flatMap_map _ _ xs

/-- If no path is refused, a pass takes all files, and the listener hears of each. -/
theorem analyze_eq_whole {σ : Type} (h : files.any (Extraction.stops r) = false)
    (listener : Listener σ) (s : σ) :
    p.analyze w r listener files config s =
      (.ok (p.whole w r config files), hearing listener (reports (order r files).length) s) := by
  refine analyze_eq_of_claimed (fun c hc => ?_) listener s
  rcases adapterFor?_of_mem_claimed hc with ⟨hadapter, hmem⟩
  have hstops := List.any_eq_false.1 h c.2 hmem
  simpa [Extraction.stops, hadapter] using hstops

/-- A path that holds a null character breaks the pass off. -/
theorem fst_analyzeRest_of_null {σ : Type} {listener : Listener σ} {total : Nat}
    {cs : List (Adapter × String)} (h : ∃ c ∈ cs, Workspace.holdsNull c.2 = true)
    (done : Nat) (out : Outcome) (s : σ) :
    (p.analyzeRest w config listener total cs done out s).1 = .error .nullByte := by
  induction cs generalizing done out s with
  | nil =>
      rcases h with ⟨c, hc, _⟩
      cases hc
  | cons c rest ih =>
      rcases c with ⟨a, file⟩
      rw [analyzeRest]
      split
      · rfl
      · rename_i hfile
        refine ih ?_ _ _ _
        rcases h with ⟨c, hc, hnull⟩
        rcases List.mem_cons.1 hc with rfl | hc
        · exact absurd hnull hfile
        · exact ⟨c, hc, hnull⟩

/-- A path that is refused stops every pass. -/
theorem fst_analyze_of_stops {σ : Type} (h : files.any (Extraction.stops r) = true)
    (listener : Listener σ) (s : σ) :
    (p.analyze w r listener files config s).1 = .error .nullByte := by
  rcases List.any_eq_true.1 h with ⟨f, hf, hstop⟩
  rw [Extraction.stops, Bool.and_eq_true] at hstop
  have horder : f ∈ order r files :=
    (perm_order r files).mem_iff.2 (List.mem_filter.2 ⟨hf, hstop.1⟩)
  rw [← map_snd_claimed] at horder
  rcases List.mem_map.1 horder with ⟨c, hc, rfl⟩
  exact fst_analyzeRest_of_null ⟨c, hc, hstop.2⟩ _ _ _

end Pass

/-! ## Passes one after the other -/

namespace Native

open Pass (order reports)

variable {w : Workspace} {r : Registry} {files : List String} {config : Json}
  {passes : List Pass} {s : Signal}

/-- The rest of a pass tells the signal of as many reports as are kept. -/
theorem exists_told_analyzeRest (p : Pass) (w : Workspace) (config : Json) (total : Nat)
    (cs : List (Adapter × String)) (done : Nat) (out : Pass.Outcome) (heard : List (Nat × Nat))
    (s : Signal) :
    ∃ told, (p.analyzeRest w config monitor total cs done out (heard, s)).2 =
      (heard ++ told, s.reportMany told.length) := by
  induction cs generalizing done out heard s with
  | nil => exact ⟨[], by simp [Pass.analyzeRest]⟩
  | cons c rest ih =>
      rcases c with ⟨a, file⟩
      rw [Pass.analyzeRest]
      split
      · exact ⟨[], by simp⟩
      · rcases ih (done + 1) (out.append (p.onFile w config a file))
          (heard ++ [(done + 1, total)]) s.report with ⟨told, htold⟩
        exact ⟨(done + 1, total) :: told,
          htold.trans (by rw [List.append_assoc, List.singleton_append]; rfl)⟩

/-- The monitor records what it hears, and reports each time. -/
theorem hearing_monitor (told heard : List (Nat × Nat)) (s : Signal) :
    Pass.hearing monitor told (heard, s) = (heard ++ told, s.reportMany told.length) := by
  induction told generalizing heard s with
  | nil => simp [Pass.hearing]
  | cons report rest ih =>
      have hstep : Pass.hearing monitor (report :: rest) (heard, s) =
          Pass.hearing monitor rest (heard ++ [report], s.report) := rfl
      rw [hstep, ih, List.append_assoc, List.singleton_append]
      rfl

/-- What is observed of one pass, if no path is refused. -/
theorem analyze_monitor (p : Pass) (w : Workspace) (config : Json)
    (h : files.any (Extraction.stops r) = false) (s : Signal) :
    p.analyze w r monitor files config ([], s) =
      (.ok (p.whole w r config files), reports (order r files).length,
        s.reportMany (order r files).length) := by
  rw [Pass.analyze_eq_whole h, hearing_monitor]
  simp [reports]

/-- The signal after passes is the signal before them with the reports that were made, also if a
pass was stopped. -/
theorem signal_runPasses (w : Workspace) (r : Registry) (files : List String) (config : Json)
    (passes : List Pass) (s : Signal) :
    (runPasses w r files config passes s).2.2 =
      s.reportMany (runPasses w r files config passes s).2.1.length := by
  induction passes generalizing s with
  | nil => rfl
  | cons p rest ih =>
      rw [runPasses]
      split
      · rfl
      · rcases exists_told_analyzeRest p w config _ (Pass.claimed r files) 0 {} [] s with
          ⟨told, htold⟩
        rw [List.nil_append] at htold
        cases hpass : p.analyze w r monitor files config ([], s) with
        | mk done heard =>
            have hheard : heard = (told, s.reportMany told.length) :=
              (congrArg Prod.snd hpass).symm.trans htold
            subst hheard
            cases done with
            | error f => rfl
            | ok here =>
                simp only
                rw [ih, List.length_append, Signal.reportMany_add]

/-- A path that is refused stops the passes, if there are any and they begin. -/
theorem fst_runPasses_of_stops {p : Pass} {rest : List Pass}
    (hstops : files.any (Extraction.stops r) = true) (hraised : ¬ s.raised = true) :
    (runPasses w r files config (p :: rest) s).1 = .error .nullByte := by
  have hstopped : (p.analyze w r monitor files config ([], s)).1 = .error .nullByte :=
    Pass.fst_analyze_of_stops hstops _ _
  rw [runPasses, if_neg hraised]
  generalize p.analyze w r monitor files config ([], s) = done at hstopped
  rcases done with ⟨done, heard⟩
  cases hstopped
  rfl

/-- The first passes of a list ran over all files, one after the other: each began while the signal
was not raised, and none is left unless it was raised then. -/
structure Ran (w : Workspace) (r : Registry) (files : List String) (config : Json)
    (passes : List Pass) (s : Signal) (out : Pass.Outcome) (progress : List (Nat × Nat))
    (count : Nat) : Prop where
  le : count ≤ passes.length
  outcome : out = Pass.Outcome.concat ((passes.take count).map fun p => p.whole w r config files)
  progress : progress = (List.replicate count (reports (order r files).length)).flatten
  begun : ∀ i < count, (s.reportMany (i * (order r files).length)).raised = false
  ended : count < passes.length → (s.reportMany (count * (order r files).length)).raised = true

/-- Passes that return ran up to the first that found the signal raised. -/
theorem exists_ran_runPasses {out : Pass.Outcome}
    (h : (runPasses w r files config passes s).1 = .ok out) :
    ∃ count, Ran w r files config passes s out (runPasses w r files config passes s).2.1 count := by
  induction passes generalizing s out with
  | nil =>
      cases h
      exact ⟨0, le_rfl, rfl, rfl, by simp, by simp⟩
  | cons p rest ih =>
      by_cases hraised : s.raised = true
      · rw [runPasses, if_pos hraised] at h ⊢
        cases h
        exact ⟨0, Nat.zero_le _, rfl, rfl, by simp, by simpa using hraised⟩
      · cases hstops : files.any (Extraction.stops r) with
        | true =>
            rw [fst_runPasses_of_stops hstops hraised] at h
            cases h
        | false =>
            simp only [runPasses, if_neg hraised, analyze_monitor p w config hstops] at h ⊢
            rcases map_eq_ok_iff.1 h with ⟨others, hothers, rfl⟩
            rcases ih hothers with ⟨count, hran⟩
            refine ⟨count + 1, Nat.succ_le_succ hran.le, ?_, ?_, ?_, ?_⟩
            · rw [hran.outcome]
              rfl
            · rw [hran.progress, List.replicate_succ, List.flatten_cons]
            · intro i hi
              cases i with
              | zero => simpa using hraised
              | succ i =>
                  rw [Nat.succ_mul, Nat.add_comm, Signal.reportMany_add]
                  exact hran.begun i (Nat.lt_of_succ_lt_succ hi)
            · intro hlt
              rw [Nat.succ_mul, Nat.add_comm, Signal.reportMany_add]
              exact hran.ended (Nat.lt_of_succ_lt_succ hlt)

/-- If no path is refused, passes return. -/
theorem exists_runPasses_eq_ok (w : Workspace) (config : Json) (passes : List Pass) (s : Signal)
    (h : files.any (Extraction.stops r) = false) :
    ∃ out, (runPasses w r files config passes s).1 = .ok out := by
  induction passes generalizing s with
  | nil => exact ⟨_, rfl⟩
  | cons p rest ih =>
      by_cases hraised : s.raised = true
      · exact ⟨{}, by rw [runPasses, if_pos hraised]⟩
      · rcases ih (s.reportMany (order r files).length) with ⟨out, hout⟩
        refine ⟨(p.whole w r config files).append out, ?_⟩
        simp only [runPasses, if_neg hraised, analyze_monitor p w config h, hout]
        rfl

/-- Every pass that ran reported once for each file. -/
theorem Ran.length_progress {out : Pass.Outcome} {progress : List (Nat × Nat)} {count : Nat}
    (h : Ran w r files config passes s out progress count) :
    progress.length = count * (order r files).length := by
  simp [h.progress, reports]

/-- What all passes come to, if nobody cancels them. -/
def runAll (w : Workspace) (r : Registry) (files : List String) (config : Json)
    (passes : List Pass) : Except Fault Pass.Outcome :=
  if !passes.isEmpty && files.any (Extraction.stops r) then .error .nullByte
  else .ok (Pass.Outcome.concat (passes.map fun p => p.whole w r config files))

/-- If the signal is not raised in the end, all passes ran. -/
theorem fst_runPasses_of_quiet (h : (runPasses w r files config passes s).2.2.raised = false) :
    (runPasses w r files config passes s).1 = runAll w r files config passes := by
  cases passes with
  | nil => rfl
  | cons p rest =>
      have hraised : ¬ s.raised = true := by
        intro hraised
        rw [runPasses, if_pos hraised] at h
        simp [hraised] at h
      cases hstops : files.any (Extraction.stops r) with
      | true =>
          rw [fst_runPasses_of_stops hstops hraised, runAll, hstops]
          rfl
      | false =>
          rcases exists_runPasses_eq_ok w config (p :: rest) s hstops with ⟨out, hout⟩
          rcases exists_ran_runPasses hout with ⟨count, hran⟩
          have hall : count = (p :: rest).length := by
            by_contra hne
            have hended := hran.ended (lt_of_le_of_ne hran.le hne)
            rw [signal_runPasses, hran.length_progress, hended] at h
            cases h
          rw [hout, hran.outcome, hall, List.take_length, runAll, hstops, Bool.and_false]
          rfl

/-! ## Whole analyses -/

section Analysis

variable {language : String} {options : Json} {names : Option (List String)} {signal : Signal}

/-- The configuration that an analysis hands to its passes. -/
def configOf (options : Json) : Json :=
  (options.get? "config").getD .null

/-- What an analysis makes of the outcome of its passes, with the signal as it is after them. -/
def conclude (w : Workspace) (r : Registry) (language : String) (files : List String)
    (options : Json) (out : Except Fault Pass.Outcome) (signal : Signal) :
    Except Fault TaskResult := do
  let out ← out
  let found ← extract w r files options signal
  return {
    language := language
    findings := out.findings
    entities := found.entities
    metrics := { filesAnalyzed := found.processed }
    errors := dedupe (out.errors ++ found.errors ++ cancellation language signal) }

/-- An analysis runs its passes and concludes from what they come to. -/
theorem analyze_eq_conclude (hnames : passNames options = .ok names) :
    analyze w r language files options signal =
      { result := conclude w r language files options
          (runPasses w r files (configOf options) (Pass.select names) signal).1
          (runPasses w r files (configOf options) (Pass.select names) signal).2.2
        progress := (runPasses w r files (configOf options) (Pass.select names) signal).2.1
        signal := (runPasses w r files (configOf options) (Pass.select names) signal).2.2 } := by
  unfold analyze
  rw [hnames]
  rfl

/-- The record that a cancelled analysis ends with. -/
def cancelledRecord (language : String) : ErrorRecord :=
  { error := "Analysis cancelled", kind := "cancelled", language := some language }

/-- A record of a new kind is kept. -/
theorem dedupe_concat {errors : List ErrorRecord} {e : ErrorRecord}
    (h : ∀ k ∈ errors, k.kind ≠ e.kind) : dedupe (errors ++ [e]) = dedupe errors ++ [e] := by
  have hnew : e.key ∉ errors.map ErrorRecord.key := by
    rw [List.mem_map]
    rintro ⟨k, hk, hkey⟩
    exact h k hk (congrArg (·.2.1) hkey)
  rw [dedupe_eq, dedupe_eq, firstBy_concat, if_neg hnew]

/-- Once the signal is raised, an analysis keeps what its passes found and adds one record. -/
theorem conclude_of_raised {out : Pass.Outcome} (hfiles : AboutFiles out.errors)
    (hraised : signal.raised = true) :
    conclude w r language files options (.ok out) signal =
      .ok { language := language
            findings := out.findings
            errors := dedupe out.errors ++ [cancelledRecord language] } := by
  have hextract : extract w r files options signal = .ok {} := by
    simp [extract, hraised]
  have hrecord : cancellation language signal = [cancelledRecord language] := by
    simp [cancellation, hraised, cancelledRecord]
  have hdedupe : dedupe (out.errors ++ [] ++ cancellation language signal) =
      dedupe out.errors ++ [cancelledRecord language] := by
    rw [hrecord, List.append_nil]
    exact dedupe_concat hfiles.kind_ne_cancelled
  unfold conclude
  rw [hextract, ← hdedupe]
  rfl

/-- An analysis that is not cancelled depends on the signal only in that it is not raised. -/
theorem conclude_congr {signal' : Signal} (out : Except Fault Pass.Outcome)
    (h : signal.raised = signal'.raised) :
    conclude w r language files options out signal =
      conclude w r language files options out signal' := by
  unfold conclude extract cancellation
  rw [h]

/-- A result that was cut off after some of the passes.  These took all files: their findings are
complete, and so are their reports.  Each of them began before the signal was raised, and it was
raised when the last of them ended.  Nothing was extracted, and the last record, and only that one,
tells of the cancellation. -/
structure CutAfter (w : Workspace) (r : Registry) (language : String) (files : List String)
    (config : Json) (passes : List Pass) (signal : Signal) (progress : List (Nat × Nat))
    (result : TaskResult) (count : Nat) : Prop where
  le : count ≤ passes.length
  findings : result.findings =
    (passes.take count).flatMap fun p => (p.whole w r config files).findings
  progress : progress = (List.replicate count (reports (order r files).length)).flatten
  begun : ∀ i < count, (signal.reportMany (i * (order r files).length)).raised = false
  raised : (signal.reportMany (count * (order r files).length)).raised = true
  entities : result.entities = []
  filesAnalyzed : result.metrics.filesAnalyzed = 0
  errors : ∃ others, result.errors = others ++ [cancelledRecord language] ∧
    ∀ e ∈ others, e.kind ≠ "cancelled"

/-- The analysis that nobody cancels. -/
def uncancelled (w : Workspace) (r : Registry) (language : String) (files : List String)
    (options : Json) : Outcome :=
  analyze w r language files options {}

/-- How an analysis with a signal compares to the one that nobody cancels.  The signal is raised in
the end if it was at the start, or if the report at which it is to be raised is made.  If it is
raised, the result is cut off after some of the passes, whose findings the other result has in full;
if it is not, the results are the same.  There is a result unless a path is refused. -/
structure CancelsCleanly (w : Workspace) (r : Registry) (language : String) (files : List String)
    (options : Json) (passes : List Pass) (signal : Signal) : Prop where
  raised_iff : (analyze w r language files options signal).signal.raised = true ↔
    signal.raised = true ∨ ∃ n, signal.raiseAt = some n ∧ signal.reports < n ∧
      n ≤ signal.reports + (analyze w r language files options signal).progress.length
  returns : (∀ f ∈ files, Extraction.stops r f = false) →
    (∃ result, (analyze w r language files options signal).result = .ok result) ∧
      ∀ p : Pass, p.attempt w r files (configOf options) =
        (.ok (p.whole w r (configOf options) files), reports (order r files).length)
  complete : ∀ result, (uncancelled w r language files options).result = .ok result →
    result.findings = passes.flatMap fun p => (p.whole w r (configOf options) files).findings
  cut : (analyze w r language files options signal).signal.raised = true →
    ∀ result, (analyze w r language files options signal).result = .ok result →
      ∃ count, CutAfter w r language files (configOf options) passes signal
        (analyze w r language files options signal).progress result count
  uncut : (analyze w r language files options signal).signal.raised = false →
    (analyze w r language files options signal).result =
        (uncancelled w r language files options).result ∧
      ∀ result, (analyze w r language files options signal).result = .ok result →
        ∀ e ∈ result.errors, e.kind ≠ "cancelled"

/-- A signal that nobody raises is not raised in the end. -/
theorem quiet_runPasses (w : Workspace) (r : Registry) (files : List String) (config : Json)
    (passes : List Pass) : (runPasses w r files config passes {}).2.2.raised = false := by
  rw [signal_runPasses, Bool.eq_false_iff, ne_eq, Signal.raised_reportMany_iff]
  simp

/-- An analysis that is not cancelled concludes from all passes. -/
theorem result_of_quiet (hnames : passNames options = .ok names)
    (hquiet : (analyze w r language files options signal).signal.raised = false) :
    (analyze w r language files options signal).result =
      conclude w r language files options
        (runAll w r files (configOf options) (Pass.select names)) {} := by
  rw [analyze_eq_conclude hnames] at hquiet ⊢
  simp only at hquiet ⊢
  rw [fst_runPasses_of_quiet hquiet]
  exact conclude_congr _ hquiet

/-- Without cancellation the result is the conclusion from all passes. -/
theorem result_uncancelled (hnames : passNames options = .ok names) :
    (uncancelled w r language files options).result =
      conclude w r language files options
        (runAll w r files (configOf options) (Pass.select names)) {} := by
  refine result_of_quiet hnames ?_
  rw [analyze_eq_conclude hnames]
  exact quiet_runPasses w r files (configOf options) (Pass.select names)

/-- If no path is refused, an analysis returns. -/
theorem exists_conclude_eq_ok (out : Pass.Outcome) (signal : Signal)
    (h : files.any (Extraction.stops r) = false) :
    ∃ result, conclude w r language files options (.ok out) signal = .ok result := by
  have hextract : ∃ found, extract w r files options signal = .ok found := by
    unfold extract
    split
    · exact ⟨_, by rw [Extraction.attempt_eq, h]; rfl⟩
    · exact ⟨_, rfl⟩
  rcases hextract with ⟨found, hfound⟩
  exact ⟨_, by unfold conclude; rw [hfound]; rfl⟩

/-- What an analysis returns when the signal is not raised has the findings of its passes, and no
record of a cancellation. -/
theorem findings_of_conclude {out : Pass.Outcome} {result : TaskResult}
    (hfiles : AboutFiles out.errors) (hquiet : signal.raised = false)
    (h : conclude w r language files options (.ok out) signal = .ok result) :
    result.findings = out.findings ∧ ∀ e ∈ result.errors, e.kind ≠ "cancelled" := by
  rcases bind_eq_ok_iff.1 h with ⟨_, hout, h⟩
  cases hout
  rcases bind_eq_ok_iff.1 h with ⟨found, hfound, h⟩
  cases h
  refine ⟨rfl, fun e he => ?_⟩
  have hmem := mem_of_mem_dedupe he
  rw [cancellation, hquiet, if_neg Bool.false_ne_true, List.append_nil] at hmem
  exact (hfiles.append (aboutFiles_extract hfound)).kind_ne_cancelled e hmem

/-- What passes come to if nobody cancels them is what all of them make of all files. -/
theorem eq_concat_of_runAll {out : Pass.Outcome} (h : runAll w r files config passes = .ok out) :
    out = Pass.Outcome.concat (passes.map fun p => p.whole w r config files) ∧
      AboutFiles out.errors := by
  constructor
  · unfold runAll at h
    split at h
    · cases h
    · exact (Except.ok.inj h).symm
  · rw [← fst_runPasses_of_quiet (quiet_runPasses w r files config passes)] at h
    exact aboutFiles_runPasses h

/-- A cancelled analysis is a clean part of the one that nobody cancels. -/
theorem cutAfter_of_raised (hnames : passNames options = .ok names)
    (hraised : (analyze w r language files options signal).signal.raised = true)
    {result : TaskResult}
    (h : (analyze w r language files options signal).result = .ok result) :
    ∃ count, CutAfter w r language files (configOf options) (Pass.select names) signal
      (analyze w r language files options signal).progress result count := by
  rw [analyze_eq_conclude hnames] at hraised h ⊢
  simp only at hraised h ⊢
  cases hout : (runPasses w r files (configOf options) (Pass.select names) signal).1 with
  | error f =>
      rw [hout] at h
      cases h
  | ok out =>
      rcases exists_ran_runPasses hout with ⟨count, hran⟩
      have hfiles := aboutFiles_runPasses hout
      rw [hout, conclude_of_raised hfiles hraised] at h
      cases h
      refine ⟨count, hran.le, ?_, hran.progress, hran.begun, ?_, rfl, rfl,
        dedupe out.errors, rfl, ?_⟩
      · rw [hran.outcome, Pass.Outcome.findings_concat_map]
      · rwa [signal_runPasses, hran.length_progress] at hraised
      · exact fun e he => hfiles.kind_ne_cancelled e (mem_of_mem_dedupe he)

/-- For every selection of passes, a signal that is raised at the start or at any report cuts an
analysis off after the pass that is running then; a signal that is not raised changes nothing. -/
theorem analyze_cancelled_cleanly (w : Workspace) (r : Registry) (language : String)
    (files : List String) (hnames : passNames options = .ok names) (signal : Signal) :
    CancelsCleanly w r language files options (Pass.select names) signal := by
  have hcomplete : ∀ result, (uncancelled w r language files options).result = .ok result →
      result.findings = (Pass.select names).flatMap
          (fun p => (p.whole w r (configOf options) files).findings) ∧
        ∀ e ∈ result.errors, e.kind ≠ "cancelled" := by
    intro result h
    rw [result_uncancelled hnames] at h
    rcases bind_eq_ok_iff.1 h with ⟨out, hout, _⟩
    rcases eq_concat_of_runAll hout with ⟨hconcat, hfiles⟩
    rw [hout] at h
    rw [← Pass.Outcome.findings_concat_map, ← hconcat]
    exact findings_of_conclude hfiles rfl h
  exact
    { raised_iff := by
        rw [← Signal.raised_reportMany_iff, analyze_eq_conclude hnames]
        simp only
        rw [signal_runPasses]
      returns := by
        intro haccepted
        have hstops : files.any (Extraction.stops r) = false := by
          simpa using haccepted
        constructor
        · rcases exists_runPasses_eq_ok w (configOf options) (Pass.select names) signal hstops with
            ⟨out, hout⟩
          rw [analyze_eq_conclude hnames, hout]
          exact exists_conclude_eq_ok out _ hstops
        · intro p
          rw [Pass.attempt, Pass.analyze_eq_whole hstops, Pass.hearing_recorder, List.nil_append]
      complete := fun result h => (hcomplete result h).1
      cut := fun hraised result h => cutAfter_of_raised hnames hraised h
      uncut := by
        intro hquiet
        have hsame := (result_of_quiet hnames hquiet).trans (result_uncancelled hnames).symm
        exact ⟨hsame, fun result h => (hcomplete result (hsame ▸ h)).2⟩ }

/-- Options that select three passes and a name that none has; functions of one line need a
comment. -/
def strictOptions : Json :=
  .obj [("analyzers",
      .ofTexts ["documentation", "style", "security", "documentation"]),
    ("config", .obj [("min_documented_lines", .int 1)])]

/-- An analysis of three files with a signal that is raised at the fourth report. -/
def cutShort : Outcome :=
  analyze Extraction.twinFiles .standard "python" Extraction.twinPaths strictOptions
    { raiseAt := some 4 }

/-- At the fourth report the second pass has just begun.  It is finished, and the third one, which
would repeat the findings of the first, does not begin. -/
theorem analyze_cancelled_cleanly_fourth : ∃ names result,
    passNames strictOptions = .ok names ∧ cutShort.result = .ok result ∧
      result.findings.length = 4 ∧ result.errors.map (·.kind) = ["read", "cancelled"] ∧
      CutAfter Extraction.twinFiles .standard "python" Extraction.twinPaths
        (configOf strictOptions) (Pass.select names) { raiseAt := some 4 } cutShort.progress
        result 2 := by
  have hnames : passNames strictOptions =
      .ok (some ["documentation", "style", "security", "documentation"]) := rfl
  have hfigures : cutShort.result.map (fun t => (t.findings.length, t.errors.map (·.kind))) =
      .ok (4, ["read", "cancelled"]) := by
    decide +kernel
  have hraised : cutShort.signal.raised = true := by decide +kernel
  have hreports : cutShort.progress.length = 6 := by decide +kernel
  have horder : order .standard Extraction.twinPaths = Extraction.twinPaths := by
    decide +kernel
  rcases map_eq_ok_iff.1 hfigures with ⟨result, hresult, hcounts⟩
  rcases (analyze_cancelled_cleanly Extraction.twinFiles .standard "python" Extraction.twinPaths
    hnames { raiseAt := some 4 }).cut hraised result hresult with ⟨count, hcut⟩
  have hprogress : cutShort.progress = _ := hcut.progress
  rw [hprogress, horder] at hreports
  have hlength : count * 3 = 6 := by
    simpa [reports, Extraction.twinPaths] using hreports
  have hcount : count = 2 := by omega
  rw [Prod.mk.injEq] at hcounts
  exact ⟨_, result, hnames, hresult, hcounts.1, hcounts.2, hcount ▸ hcut⟩

end Analysis

end Native
end CrossAudit
