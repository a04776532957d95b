import CrossAudit.Pass.Run
import CrossAudit.Proofs.Assoc

/-!
# A pass over files is the sum over its files

A pass takes files language by language and adds what each of them yields to one outcome, while a
listener is told of every file.  Neither the files before a file nor the listener change what it
yields, so the outcome is what the files yield alone, one after the other.

Main results:

- Theorem `map_snd_claimed`: the files are taken by languages in the order in which these are seen
  first, and within a language in their own order.
- Theorem `analyzeRest_eq`: the rest of the files adds what each of them yields, and the listener
  hears one report for each.
- Theorem `decided_onFile`: a file is processed, or it cannot be read or analyzed and has no
  findings.
- Theorem `analyze_isSum`: a pass over files is the sum of the pass over each file alone.
-/

namespace CrossAudit
namespace Pass

variable {p : Pass} {w : Workspace} {r : Registry} {config : Json} {files : List String}

/-! ## The order of files -/

/-- The files that have an adapter: languages in the order in which they are seen first, and the
files of a language in their own order. -/
def order (r : Registry) (files : List String) : List String :=
  (files.filterMap r.adapterFor?).eraseDups.flatMap fun a =>
    files.filter fun f => r.adapterFor? f == some a

/-- The files that are claimed are those of the order, in that order. -/
theorem map_snd_claimed (r : Registry) (files : List String) :
    (claimed r files).map (·.2) = order r files := by
  unfold claimed groupFiles order
  rw [Assoc.group_eq, List.flatMap_map, List.map_flatMap]
  simp [Function.comp_def]

/-- A claimed file is one of the files and goes to its adapter. -/
theorem adapterFor?_of_mem_claimed {c : Adapter × String} (h : c ∈ claimed r files) :
    r.adapterFor? c.2 = some c.1 ∧ c.2 ∈ files := by
  unfold claimed groupFiles at h
  rw [Assoc.group_eq, List.flatMap_map, List.mem_flatMap] at h
  rcases h with ⟨a, _, h⟩
  rcases List.mem_map.1 h with ⟨f, hf, rfl⟩
  rcases List.mem_filter.1 hf with ⟨hmem, hadapter⟩
  exact ⟨by simpa using hadapter, hmem⟩

/-- No file that has an adapter is lost or repeated. -/
theorem perm_order (r : Registry) (files : List String) :
    (order r files).Perm (files.filter fun f => (r.adapterFor? f).isSome) := by
  have hperm := Assoc.perm_items_group r.adapterFor? files
  rwa [Assoc.group_eq, List.flatMap_map] at hperm

/-! ## Outcomes one after the other -/

/-- Several outcomes one after the other. -/
def Outcome.concat (outs : List Outcome) : Outcome where
  findings := outs.flatMap (·.findings)
  processed := total (outs.map (·.processed))
  errors := outs.flatMap (·.errors)

@[simp]
theorem Outcome.append_concat_nil (o : Outcome) : o.append (Outcome.concat []) = o := by
  simp [Outcome.append, Outcome.concat, total]

@[simp]
theorem Outcome.nil_append (o : Outcome) : Outcome.append {} o = o := by
  simp [Outcome.append]

/-- The outcome so far takes up the next one before the rest. -/
theorem Outcome.append_concat_cons (o here : Outcome) (outs : List Outcome) :
    (o.append here).append (Outcome.concat outs) = o.append (Outcome.concat (here :: outs)) := by
  simp [Outcome.append, Outcome.concat, total, Nat.add_assoc]

/-! ## Reports -/

/-- The reports on files after some that are done, of a number of files. -/
def reportsAfter (done total count : Nat) : List (Nat × Nat) :=
  (List.range count).map fun i => (done + i + 1, total)

/-- The reports on a number of files: one of them is done, two of them, and so on. -/
def reports (n : Nat) : List (Nat × Nat) :=
  (List.range n).map fun i => (i + 1, n)

/-- The state of a listener that was told of reports. -/
def hearing {σ : Type} (listener : Listener σ) (told : List (Nat × Nat)) (s : σ) : σ :=
  told.foldl (fun s report => tell listener report s) s

/-- All reports come after none. -/
theorem reportsAfter_zero (n : Nat) : reportsAfter 0 n n = reports n := by
  simp [reportsAfter, reports]

/-- The next report comes first, and the others after it. -/
theorem reportsAfter_succ (done total count : Nat) :
    reportsAfter done total (count + 1) =
      (done + 1, total) :: reportsAfter (done + 1) total count := by
  simp [reportsAfter, List.range_succ_eq_map, Nat.add_assoc, Nat.add_comm 1]

/-- A listener that records hears everything that is told, in order. -/
theorem hearing_recorder (told heard : List (Nat × Nat)) :
    hearing recorder told heard = heard ++ told := by
  induction told generalizing heard with
  | nil => simp [hearing]
  | cons report rest ih =>
      have hstep : hearing recorder (report :: rest) heard =
          hearing recorder rest (heard ++ [report]) := rfl
      rw [hstep, ih, List.append_assoc, List.singleton_append]

/-! ## Files one after the other -/

/-- The rest of the files adds what each of them yields, and the listener hears one report for
each. -/
theorem analyzeRest_eq {σ : Type} (listener : Listener σ) (total : Nat)
    {cs : List (Adapter × String)} (hnull : ∀ c ∈ cs, Workspace.holdsNull c.2 = false)
    (done : Nat) (out : Outcome) (s : σ) :
    p.analyzeRest w config listener total cs done out s =
      (.ok (out.append (Outcome.concat (cs.map fun c => p.onFile w config c.1 c.2))),
        hearing listener (reportsAfter done total cs.length) s) := by
  induction cs generalizing done out s with
  | nil => simp [analyzeRest, hearing, reportsAfter]
  | cons c rest ih =>
      rcases c with ⟨a, file⟩
      have hfile : Workspace.holdsNull file = false := hnull (a, file) List.mem_cons_self
      have hrest : ∀ c ∈ rest, Workspace.holdsNull c.2 = false :=
        fun c hc => hnull c (List.mem_cons_of_mem _ hc)
      simp only [analyzeRest, hfile, Bool.false_eq_true, if_false, ih hrest,
        Outcome.append_concat_cons, List.map_cons, List.length_cons, reportsAfter_succ]
      rfl

/-! ## One file -/

/-- The outcome of a file that cannot be read or analyzed. -/
def Outcome.isBroken (o : Outcome) : Bool :=
  o.errors.any fun e => e.kind == "read" || e.kind == "analysis"

/-- Errors of the parser are of one kind. -/
theorem kind_of_mem_parseErrors {a : Adapter} {d : Syntax.Document} {e : ErrorRecord}
    (h : e ∈ Extraction.parseErrors a d) : e.kind = "parse" := by
  unfold Extraction.parseErrors at h
  split at h
  · cases h
  · rw [List.mem_singleton.1 h]
    rfl

/-- What a pass can make of a file: it is processed, or it cannot be read or analyzed and has no
findings. -/
inductive Decided (o : Outcome) : Prop where
  | processed : o.isBroken = false → o.processed = 1 → Decided o
  | broken : o.isBroken = true → o.processed = 0 → o.findings = [] → Decided o

/-- A file that cannot be read gives an error and nothing else. -/
theorem onFile_of_unreadable {a : Adapter} {file : String} {e : FileError}
    (h : w.read (normalPath file) = .error e) :
    p.onFile w config a file =
      { errors := [Extraction.fileError a (normalPath file) "read"
          ("Read error: " ++ e.message)] } := by
  unfold onFile
  simp only [h]

/-- A file that is read gives what its document does, and the errors of the parser. -/
theorem onFile_of_read {a : Adapter} {file : String} {content : ByteArray}
    (h : w.read (normalPath file) = .ok content) :
    p.onFile w config a file =
      match p.onDocument a (w.parse a (normalPath file) content) config with
      | .ok findings =>
        { findings := findings
          processed := 1
          errors := Extraction.parseErrors a (w.parse a (normalPath file) content) }
      | .error fault =>
        { errors := Extraction.parseErrors a (w.parse a (normalPath file) content) ++
            [Extraction.fileError a (normalPath file) "analysis"
              ("Analysis error: " ++ fault.message)] } := by
  unfold onFile
  cases hdocument : p.onDocument a (w.parse a (normalPath file) content) config <;>
    simp only [h, hdocument]

/-- A pass over one file either processes it or breaks off without findings. -/
theorem decided_onFile (p : Pass) (w : Workspace) (config : Json) (a : Adapter) (file : String) :
    Decided (p.onFile w config a file) := by
  cases hread : w.read (normalPath file) with
  | error e =>
      rw [onFile_of_unreadable hread]
      exact .broken rfl rfl rfl
  | ok content =>
      rw [onFile_of_read hread]
      cases p.onDocument a (w.parse a (normalPath file) content) config with
      | ok findings =>
          refine .processed ?_ rfl
          -- All that is said of a file which is processed is what the parser said.
          rw [Outcome.isBroken, List.any_eq_false]
          intro e he
          rw [kind_of_mem_parseErrors he]
          decide
      | error fault =>
          refine .broken ?_ rfl rfl
          simp [Outcome.isBroken, Extraction.fileError]

/-- What a pass makes of a file that is alone. -/
def alone (p : Pass) (w : Workspace) (r : Registry) (config : Json) (file : String) : Outcome :=
  match r.adapterFor? file with
  | some a => p.onFile w config a file
  | none => {}

/-- A claimed file alone is decided as it is among others. -/
theorem decided_alone (p : Pass) (w : Workspace) (config : Json) {file : String}
    (h : (r.adapterFor? file).isSome = true) : Decided (p.alone w r config file) := by
  rcases Option.isSome_iff_exists.1 h with ⟨a, ha⟩
  rw [alone, ha]
  exact decided_onFile p w config a file

/-- The claimed files give what each of them gives alone. -/
theorem map_onFile_claimed :
    (claimed r files).map (fun c => p.onFile w config c.1 c.2) =
      (order r files).map (p.alone w r config) := by
  rw [← map_snd_claimed, List.map_map]
  refine List.map_congr_left fun c hc => ?_
  simp [alone, (adapterFor?_of_mem_claimed hc).1]

/-! ## All files -/

/-- A run over files whose claimed paths hold no null character, and what its listener hears. -/
theorem analyze_eq_of_claimed {σ : Type}
    (hnull : ∀ c ∈ claimed r files, Workspace.holdsNull c.2 = false) (listener : Listener σ)
    (s : σ) :
    p.analyze w r listener files config s =
      (.ok (Outcome.concat ((order r files).map (p.alone w r config))),
        hearing listener (reports (order r files).length) s) := by
  have hlength : (claimed r files).length = (order r files).length := by
    rw [← map_snd_claimed, List.length_map]
  unfold analyze
  rw [analyzeRest_eq listener _ hnull, map_onFile_claimed, Outcome.nil_append, reportsAfter_zero,
    hlength]

/-- A run over files whose paths hold no null character gives what they give one by one. -/
theorem analyze_eq {σ : Type} (hnull : ∀ f ∈ files, Workspace.holdsNull f = false)
    (listener : Listener σ) (s : σ) :
    p.analyze w r listener files config s =
      (.ok (Outcome.concat ((order r files).map (p.alone w r config))),
        hearing listener (reports (order r files).length) s) :=
  analyze_eq_of_claimed (fun c hc => hnull c.2 (adapterFor?_of_mem_claimed hc).2) listener s

/-- One claimed file is a whole order. -/
theorem order_singleton {file : String} (h : (r.adapterFor? file).isSome = true) :
    order r [file] = [file] := by
  have hperm := perm_order r [file]
  rwa [List.filter_singleton, h, cond_true, List.perm_singleton] at hperm

/-- Every file of a sum is processed, unless it is broken. -/
theorem processed_concat {fs : List String} (h : ∀ f ∈ fs, (r.adapterFor? f).isSome = true) :
    (Outcome.concat (fs.map (p.alone w r config))).processed +
      fs.countP (fun f => (p.alone w r config f).isBroken) = fs.length := by
  induction fs with
  | nil => rfl
  | cons f rest ih =>
      have hrest := ih fun f hf => h f (List.mem_cons_of_mem _ hf)
      have hhere := decided_alone p w config (h f List.mem_cons_self)
      simp only [Outcome.concat, List.map_cons, total, List.countP_cons, List.length_cons] at hrest ⊢
      cases hhere with
      | processed hbroken hprocessed =>
          simp only [hbroken, hprocessed, Bool.false_eq_true, if_false]
          omega
      | broken hbroken hprocessed _ =>
          simp only [hbroken, hprocessed, if_true]
          omega

/-- A pass over files is the sum of what it makes of each of them alone: whoever listens, it returns
an outcome, made of the outcomes of the files in their order, and the listener hears of one file
after the other. -/
structure IsSum (p : Pass) (w : Workspace) (r : Registry) (config : Json) (files : List String)
    (alone : String → Outcome) : Prop where
  each : ∀ f ∈ order r files, ∀ (σ : Type) (listener : Listener σ) (s : σ),
    p.analyze w r listener [f] config s = (.ok (alone f), hearing listener (reports 1) s)
  whole : ∀ (σ : Type) (listener : Listener σ) (s : σ),
    p.analyze w r listener files config s =
      (.ok (Outcome.concat ((order r files).map alone)),
        hearing listener (reports (order r files).length) s)
  recorded : p.attempt w r files config =
    (.ok (Outcome.concat ((order r files).map alone)), reports (order r files).length)
  complete : (order r files).Perm (files.filter fun f => (r.adapterFor? f).isSome)
  processed : (Outcome.concat ((order r files).map alone)).processed +
    (order r files).countP (fun f => (alone f).isBroken) = (order r files).length
  broken : ∀ f ∈ order r files, (alone f).isBroken = true → (alone f).findings = []

/-- A pass over files whose paths hold no null byte is the sum of the pass over each file alone. -/
theorem analyze_isSum (p : Pass) (w : Workspace) (r : Registry) (config : Json)
    {files : List String} (hnull : ∀ f ∈ files, Workspace.holdsNull f = false) :
    ∃ alone, IsSum p w r config files alone := by
  have hclaims : ∀ f ∈ order r files, f ∈ files ∧ (r.adapterFor? f).isSome = true := by
    intro f hf
    simpa using (perm_order r files).mem_iff.1 hf
  refine ⟨p.alone w r config, ?_⟩
  exact
    { each := by
        intro f hf σ listener s
        have hsingle : ∀ g ∈ [f], Workspace.holdsNull g = false := by
          simpa using hnull f (hclaims f hf).1
        rw [analyze_eq hsingle, order_singleton (hclaims f hf).2]
        simp [Outcome.concat, total]
      whole := fun σ listener s => analyze_eq hnull listener s
      recorded := by
        rw [attempt, analyze_eq hnull, hearing_recorder, List.nil_append]
      complete := perm_order r files
      processed := processed_concat fun f hf => (hclaims f hf).2
      broken := by
        intro f hf hbroken
        cases decided_alone p w config (hclaims f hf).2 with
        | processed hwhole _ =>
            rw [hwhole] at hbroken
            cases hbroken
        | broken _ _ hnone => exact hnone }

/-- A workspace with a file and a directory that goes by the name of one. -/
def mixedWorkspace : Workspace where
  entries := [(["a.py"], .file ⟨#[]⟩), (["d.py"], .directory)]

/-- A file that is there, one that is missing, a directory, one that no adapter has, and the first
one again. -/
def mixedPaths : List String :=
  ["a.py", "x.ts", "d.py", "notes.md", "a.py"]

/-- A file in pieces, one that is missing, one twice and one of another language: reports, outcome
and sum. -/
theorem analyze_isSum_mixed : ∃ out alone,
    Pass.security.attempt mixedWorkspace .standard mixedPaths .null =
        (.ok out, [(1, 4), (2, 4), (3, 4), (4, 4)]) ∧
      out = Outcome.concat (["a.py", "d.py", "a.py", "x.ts"].map alone) ∧ out.processed = 2 ∧
      out.errors.map (·.kind) = ["parse", "read", "parse", "read"] ∧
      IsSum .security mixedWorkspace .standard .null mixedPaths alone := by
  have hnull : ∀ f ∈ mixedPaths, Workspace.holdsNull f = false := by decide
  have horder : order .standard mixedPaths = ["a.py", "d.py", "a.py", "x.ts"] := by decide +kernel
  have hfigures : (Pass.security.attempt mixedWorkspace .standard mixedPaths .null).1.map
      (fun out => (out.processed, out.errors.map (·.kind))) =
        .ok (2, ["parse", "read", "parse", "read"]) := by
    decide +kernel
  rcases analyze_isSum .security mixedWorkspace .standard .null hnull with ⟨alone, hsum⟩
  have hrecorded := hsum.recorded
  rw [hrecorded, Except.map, Except.ok.injEq, Prod.mk.injEq] at hfigures
  rw [horder] at hrecorded hfigures
  exact ⟨_, alone, hrecorded, rfl, hfigures.1, hfigures.2, hsum⟩

end Pass
end CrossAudit
