import CrossAudit.Proofs.Task.Cancellation

/-!
# Diagnoses do not depend on the passes

Every pass reads and parses the files anew, and so does the extraction of entities.  Each of them
says of a file that it cannot be read, or what its parser objects to, in the same words; what else
they say depends on the pass and its configuration.  Since records are kept once, the diagnoses of
the files of one language are those of the extraction alone, whichever passes ran before it.

Main results:

- Theorem `Native.filter_dedupe`: keeping records once commutes with choosing some by their keys.
- Theorems `Pass.filter_whole`, `Extraction.filter_ofFiles`: a pass and the extraction make the same
  diagnoses of each file.
- Theorem `Native.diagnoses_of_quiet`: the diagnoses of an analysis, from the files alone.
- Theorem `Native.diagnoses_independent`: they do not depend on the passes, are made once, and are
  made of the files that cannot be read or parsed.
-/

namespace CrossAudit

/-! ## Records kept once -/

namespace ErrorRecord

/-- Whether a record tells that a file cannot be read, or what its parser objects to. -/
def isDiagnosis (e : ErrorRecord) : Bool :=
  e.kind == "read" || e.kind == "parse"

/-- Errors with the same key are diagnoses alike. -/
theorem isDiagnosis_congr {e e' : ErrorRecord} (h : e.key = e'.key) :
    e.isDiagnosis = e'.isDiagnosis := by
  have hkind : e.kind = e'.kind := congrArg (·.2.1) h
  rw [isDiagnosis, isDiagnosis, hkind]

end ErrorRecord

namespace Native

open ErrorRecord (key)

variable {errors more : List ErrorRecord}

/-- What is said of the key of some record is said of one that is kept. -/
theorem exists_mem_dedupe_iff (fits : Option String × String × String → Prop) :
    (∃ e ∈ dedupe errors, fits e.key) ↔ ∃ e ∈ errors, fits e.key := by
  constructor
  · rintro ⟨e, he, hfits⟩
    exact ⟨e, mem_of_mem_dedupe he, hfits⟩
  · rintro ⟨e, he, hfits⟩
    have hkeys : e.key ∈ (dedupe errors).map key := by
      rw [dedupe_eq]
      exact mem_keys_firstBy.2 (List.mem_map_of_mem he)
    rcases List.mem_map.1 hkeys with ⟨e', he', hkey⟩
    exact ⟨e', he', hkey ▸ hfits⟩

/-- No key is kept twice. -/
theorem nodup_keys_dedupe (errors : List ErrorRecord) : ((dedupe errors).map key).Nodup := by
  rw [dedupe_eq]
  exact nodup_keys_firstBy key errors

/-- Keeping records once commutes with choosing some of them by their keys. -/
theorem filter_dedupe {test : ErrorRecord → Bool}
    (htest : ∀ {e e'}, key e = key e' → test e = test e') (errors : List ErrorRecord) :
    (dedupe errors).filter test = dedupe (errors.filter test) := by
  rw [dedupe_eq, dedupe_eq, filter_firstBy htest]

/-- Records whose keys are there already add nothing. -/
theorem dedupe_append_of_repeated (h : ∀ e ∈ more, e.key ∈ errors.map key) :
    dedupe (errors ++ more) = dedupe errors := by
  rw [dedupe_eq, dedupe_eq, firstBy_append_of_repeated h]

end Native

/-! ## The diagnosis of a file -/

namespace Extraction

variable {w : Workspace} {r : Registry} {a : Adapter} {file : String}

/-- The diagnosis of what was read at a path: that nothing could be read, or what the parser objects
to. -/
def diagnosis (w : Workspace) (a : Adapter) (path : String) :
    Except FileError ByteArray → List ErrorRecord
  | .error e => [fileError a path "read" ("Read error: " ++ e.message)]
  | .ok content => parseErrors a (w.parse a path content)

/-- What is wrong with a file before anything looks for rules or entities in it. -/
def diagnose (w : Workspace) (a : Adapter) (file : String) : List ErrorRecord :=
  diagnosis w a (normalPath file) (w.read (normalPath file))

/-- The diagnosis of a file, if it has an adapter. -/
def diagnoseFor (w : Workspace) (r : Registry) (file : String) : List ErrorRecord :=
  match r.adapterFor? file with
  | some a => diagnose w a file
  | none => []

/-- A file that has an adapter and cannot be read. -/
def Unreadable (w : Workspace) (r : Registry) (file : String) : Prop :=
  (r.adapterFor? file).isSome = true ∧ ∃ why, w.read (normalPath file) = .error why

/-- A file that its adapter reads, and to which the parser objects. -/
def Malformed (w : Workspace) (r : Registry) (file : String) : Prop :=
  ∃ a content, r.adapterFor? file = some a ∧ w.read (normalPath file) = .ok content ∧
    (w.parse a (normalPath file) content).diagnostics ≠ []

/-- The diagnosis of a file that cannot be read is why. -/
theorem diagnoseFor_of_unreadable {why : FileError} (hadapter : r.adapterFor? file = some a)
    (hread : w.read (normalPath file) = .error why) :
    diagnoseFor w r file =
      [fileError a (normalPath file) "read" ("Read error: " ++ why.message)] := by
  simp only [diagnoseFor, hadapter, diagnose, hread, diagnosis]

/-- The diagnosis of a file that is read is what its parser complains about. -/
theorem diagnoseFor_of_read {content : ByteArray} (hadapter : r.adapterFor? file = some a)
    (hread : w.read (normalPath file) = .ok content) :
    diagnoseFor w r file = parseErrors a (w.parse a (normalPath file) content) := by
  simp only [diagnoseFor, hadapter, diagnose, hread, diagnosis]

/-- The files with a diagnosis that they cannot be read. -/
theorem exists_read_iff {path : String} :
    (∃ e ∈ diagnoseFor w r file, e.kind = "read" ∧ e.file = some path) ↔
      normalPath file = path ∧ Unreadable w r file := by
  cases hadapter : r.adapterFor? file with
  | none => simp [diagnoseFor, Unreadable, hadapter]
  | some a =>
      cases hread : w.read (normalPath file) with
      | error why =>
          rw [diagnoseFor_of_unreadable hadapter hread]
          simp [Unreadable, hadapter, hread, fileError]
      | ok content =>
          rw [diagnoseFor_of_read hadapter hread]
          constructor
          · rintro ⟨e, he, hkind, _⟩
            rw [Pass.kind_of_mem_parseErrors he] at hkind
            simp at hkind
          · rintro ⟨_, _, why, hwhy⟩
            rw [hread] at hwhy
            cases hwhy

/-- The files with a diagnosis of their parser. -/
theorem exists_parse_iff {path : String} :
    (∃ e ∈ diagnoseFor w r file, e.kind = "parse" ∧ e.file = some path) ↔
      normalPath file = path ∧ Malformed w r file := by
  cases hadapter : r.adapterFor? file with
  | none => simp [diagnoseFor, Malformed, hadapter]
  | some a =>
      cases hread : w.read (normalPath file) with
      | error why =>
          rw [diagnoseFor_of_unreadable hadapter hread]
          simp [Malformed, hread, fileError]
      | ok content =>
          have hmalformed : Malformed w r file ↔
              (w.parse a (normalPath file) content).diagnostics ≠ [] := by
            simp [Malformed, hadapter, hread]
          rw [diagnoseFor_of_read hadapter hread, hmalformed, parseErrors, parse_path]
          by_cases hclean : (w.parse a (normalPath file) content).diagnostics = []
          · simp [hclean]
          · simp [hclean, fileError]

/-- All errors of a parser are diagnoses. -/
theorem filter_parseErrors (a : Adapter) (d : Syntax.Document) :
    (parseErrors a d).filter ErrorRecord.isDiagnosis = parseErrors a d := by
  rw [List.filter_eq_self]
  intro e he
  simp [ErrorRecord.isDiagnosis, Pass.kind_of_mem_parseErrors he]

/-- An error of the analysis is no diagnosis. -/
theorem filter_fileError_analysis (a : Adapter) (path error : String) :
    [fileError a path "analysis" error].filter ErrorRecord.isDiagnosis = [] :=
  rfl

/-- The extraction from a file reports its diagnosis. -/
theorem filter_ofFile (w : Workspace) (a : Adapter) (file : String) (pool : IdPool) :
    (ofFile w a file pool).1.errors.filter ErrorRecord.isDiagnosis = diagnose w a file := by
  cases hread : w.read (normalPath file) with
  | error e =>
      rw [ofFile_of_unreadable hread, diagnose, hread]
      rfl
  | ok content =>
      rw [ofFile_of_read hread, diagnose, hread]
      cases a.apiCalls (w.parse a (normalPath file) content) with
      | ok calls => exact filter_parseErrors a _
      | error fault =>
          simp only [List.filter_append, filter_parseErrors, filter_fileError_analysis,
            List.append_nil, diagnosis]

/-- The extraction makes the diagnoses of the files, one after the other. -/
theorem filter_ofFiles (w : Workspace) (r : Registry) (files : List String) (pool : IdPool) :
    (ofFiles w r files pool).1.errors.filter ErrorRecord.isDiagnosis =
      files.flatMap (diagnoseFor w r) := by
  induction files generalizing pool with
  | nil => rfl
  | cons file rest ih =>
      rw [List.flatMap_cons, diagnoseFor]
      cases hadapter : r.adapterFor? file with
      | none =>
          simp only [ofFiles, hadapter, List.nil_append]
          exact ih pool
      | some a =>
          simp only [ofFiles, hadapter, Yield.append, List.filter_append, filter_ofFile, ih]

/-- Files without an adapter have no diagnosis. -/
theorem flatMap_diagnoseFor_claimed (w : Workspace) (r : Registry) (files : List String) :
    (files.filter fun f => (r.adapterFor? f).isSome).flatMap (diagnoseFor w r) =
      files.flatMap (diagnoseFor w r) := by
  induction files with
  | nil => rfl
  | cons file rest ih =>
      rw [List.filter_cons, List.flatMap_cons]
      cases hadapter : r.adapterFor? file with
      | none => simpa [diagnoseFor, hadapter] using ih
      | some a => simp [ih]

end Extraction

namespace Pass

variable {r : Registry} {files : List String}

/-- A pass over a file reports its diagnosis. -/
theorem filter_onFile (p : Pass) (w : Workspace) (config : Json) (a : Adapter) (file : String) :
    (p.onFile w config a file).errors.filter ErrorRecord.isDiagnosis =
      Extraction.diagnose w a file := by
  cases hread : w.read (normalPath file) with
  | error e =>
      rw [onFile_of_unreadable hread, Extraction.diagnose, hread]
      rfl
  | ok content =>
      rw [onFile_of_read hread, Extraction.diagnose, hread]
      cases p.onDocument a (w.parse a (normalPath file) content) config with
      | ok findings => exact Extraction.filter_parseErrors a _
      | error fault =>
          simp only [List.filter_append, Extraction.filter_parseErrors,
            Extraction.filter_fileError_analysis, List.append_nil, Extraction.diagnosis]

/-- A pass makes the diagnoses of the files in the order in which it takes them. -/
theorem filter_whole (p : Pass) (w : Workspace) (r : Registry) (config : Json)
    (files : List String) :
    (p.whole w r config files).errors.filter ErrorRecord.isDiagnosis =
      (order r files).flatMap (Extraction.diagnoseFor w r) := by
  have halone : ∀ f, (p.alone w r config f).errors.filter ErrorRecord.isDiagnosis =
      Extraction.diagnoseFor w r f := by
    intro f
    rw [alone, Extraction.diagnoseFor]
    cases r.adapterFor? f with
    | none => rfl
    | some a => exact filter_onFile p w config a f
  rw [whole, Outcome.errors_concat_map, List.filter_flatMap]
  exact congrArg (List.flatMap · (order r files)) (funext halone)

/-- The files of one language are taken in their own order. -/
theorem order_of_one {a : Adapter}
    (h : ∀ f ∈ files, ∀ b, r.adapterFor? f = some b → b = a) :
    order r files = files.filter fun f => (r.adapterFor? f).isSome := by
  have hall : ∀ b ∈ files.filterMap r.adapterFor?, b = a := by
    intro b hb
    rcases List.mem_filterMap.1 hb with ⟨f, hf, hadapter⟩
    exact h f hf b hadapter
  unfold order
  cases hclaimed : files.filterMap r.adapterFor? with
  | nil =>
      have hnone : ∀ f ∈ files, ¬ (r.adapterFor? f).isSome = true := by
        simpa using List.filterMap_eq_nil_iff.1 hclaimed
      rw [List.filter_eq_nil_iff.2 hnone]
      rfl
  | cons b rest =>
      rw [hclaimed] at hall
      have hb : b = a := hall b List.mem_cons_self
      have hrest : (rest.filter fun c => !c == b) = [] := by
        rw [List.filter_eq_nil_iff]
        intro c hc
        simp [hall c (List.mem_cons_of_mem b hc), hb]
      rw [List.eraseDups_cons, hrest, List.eraseDups_nil, List.flatMap_singleton]
      refine List.filter_congr fun f hf => ?_
      cases hadapter : r.adapterFor? f with
      | none => rfl
      | some c => simp [h f hf c hadapter, hb]

/-- A pass over files of one language makes their diagnoses in their own order. -/
theorem filter_whole_of_one {a : Adapter}
    (h : ∀ f ∈ files, ∀ b, r.adapterFor? f = some b → b = a) (p : Pass) (w : Workspace)
    (config : Json) :
    (p.whole w r config files).errors.filter ErrorRecord.isDiagnosis =
      files.flatMap (Extraction.diagnoseFor w r) := by
  rw [filter_whole, order_of_one h, Extraction.flatMap_diagnoseFor_claimed]

end Pass

/-! ## The diagnoses of an analysis -/

/-- The diagnoses among the records of a result. -/
def TaskResult.diagnoses (t : TaskResult) : List ErrorRecord :=
  t.errors.filter ErrorRecord.isDiagnosis

namespace Native

open ErrorRecord (key)

variable {w : Workspace} {r : Registry} {files : List String} {language language' : String}
  {options options' : Json} {names names' : Option (List String)} {signal signal' : Signal}
  {a : Adapter}

/-- What passes and the extraction say in turn about the same files is kept once. -/
theorem dedupe_flatMap_const (passes : List Pass) (found : List ErrorRecord) :
    dedupe ((passes.flatMap fun _ => found) ++ found) = dedupe found := by
  cases passes with
  | nil => rfl
  | cons p rest =>
      rw [List.flatMap_cons, List.append_assoc]
      refine dedupe_append_of_repeated fun e he => List.mem_map_of_mem ?_
      rcases List.mem_append.1 he with he | he
      · rcases List.mem_flatMap.1 he with ⟨_, _, he⟩
        exact he
      · exact he

/-- The diagnoses of an analysis that is not cancelled, from the files alone. -/
theorem diagnoses_of_quiet (hone : ∀ f ∈ files, ∀ b, r.adapterFor? f = some b → b = a)
    (hnames : passNames options = .ok names) (hwants : wantsEntities options = true)
    (hquiet : (analyze w r language files options signal).signal.raised = false) :
    (analyze w r language files options signal).result.map TaskResult.diagnoses =
      if files.any (Extraction.stops r) then .error .nullByte
      else .ok (dedupe (files.flatMap (Extraction.diagnoseFor w r))) := by
  have hextract : extract w r files options {} = Extraction.attempt w r files := by
    simp [extract, hwants]
  rw [result_of_quiet hnames hquiet, conclude, hextract, Extraction.attempt_eq]
  cases hstops : files.any (Extraction.stops r) with
  | true =>
      unfold runAll
      split
      · rfl
      · rfl
  | false =>
      have hpasses : ((Pass.Outcome.concat ((Pass.select names).map fun p =>
          p.whole w r (configOf options) files)).errors.filter ErrorRecord.isDiagnosis) =
          (Pass.select names).flatMap fun _ => files.flatMap (Extraction.diagnoseFor w r) := by
        rw [Pass.Outcome.errors_concat_map, List.filter_flatMap]
        exact List.flatMap_congr fun p _ => Pass.filter_whole_of_one hone p w (configOf options)
      have hextraction : (Extraction.run w r files).errors.filter ErrorRecord.isDiagnosis =
          files.flatMap (Extraction.diagnoseFor w r) :=
        Extraction.filter_ofFiles w r files {}
      rw [runAll, hstops, Bool.and_false]
      refine congrArg Except.ok ?_
      change (dedupe (_ ++ (Extraction.run w r files).errors ++ [])).filter _ = _
      rw [List.append_nil, filter_dedupe ErrorRecord.isDiagnosis_congr, List.filter_append, hpasses,
        hextraction, dedupe_flatMap_const]

/-- Records that are the diagnoses of files: no two of them agree in file, kind and wording, and
there is one of each file that cannot be read or to which the parser objects, and of no other. -/
structure Diagnoses (w : Workspace) (r : Registry) (files : List String)
    (records : List ErrorRecord) : Prop where
  once : (records.map key).Nodup
  read_iff : ∀ path, (∃ e ∈ records, e.kind = "read" ∧ e.file = some path) ↔
    ∃ f ∈ files, normalPath f = path ∧ Extraction.Unreadable w r f
  parse_iff : ∀ path, (∃ e ∈ records, e.kind = "parse" ∧ e.file = some path) ↔
    ∃ f ∈ files, normalPath f = path ∧ Extraction.Malformed w r f

/-- The diagnoses without repetitions are those of all files. -/
theorem diagnoses_dedupe (w : Workspace) (r : Registry) (files : List String) :
    Diagnoses w r files (dedupe (files.flatMap (Extraction.diagnoseFor w r))) := by
  have hsaid : ∀ (kind path : String),
      (∃ e ∈ dedupe (files.flatMap (Extraction.diagnoseFor w r)),
          e.kind = kind ∧ e.file = some path) ↔
        ∃ f ∈ files, ∃ e ∈ Extraction.diagnoseFor w r f, e.kind = kind ∧ e.file = some path := by
    intro kind path
    refine (exists_mem_dedupe_iff fun k => k.2.1 = kind ∧ k.1 = some path).trans ?_
    simp only [List.mem_flatMap]
    constructor
    · rintro ⟨e, ⟨f, hf, he⟩, hfits⟩
      exact ⟨f, hf, e, he, hfits⟩
    · rintro ⟨f, hf, e, he, hfits⟩
      exact ⟨e, ⟨f, hf, he⟩, hfits⟩
  refine ⟨nodup_keys_dedupe _, fun path => ?_, fun path => ?_⟩
  · simp only [hsaid, Extraction.exists_read_iff]
  · simp only [hsaid, Extraction.exists_parse_iff]

/-- Whatever passes run, with whatever configuration, the diagnoses of the files of one language are
the same; they are made once, of the files that cannot be read or parsed and of no others.  There
are such results unless a path is refused, and then there are none at all. -/
theorem diagnoses_independent (hone : ∀ f ∈ files, ∀ b, r.adapterFor? f = some b → b = a)
    (hnames : passNames options = .ok names) (hnames' : passNames options' = .ok names')
    (hwants : wantsEntities options = true) (hwants' : wantsEntities options' = true)
    (hquiet : (analyze w r language files options signal).signal.raised = false)
    (hquiet' : (analyze w r language' files options' signal').signal.raised = false) :
    (analyze w r language files options signal).result.map TaskResult.diagnoses =
        (analyze w r language' files options' signal').result.map TaskResult.diagnoses ∧
      (∀ result, (analyze w r language files options signal).result = .ok result →
        Diagnoses w r files result.diagnoses) ∧
      ((∀ f ∈ files, Extraction.stops r f = false) →
        ∃ result, (analyze w r language files options signal).result = .ok result) := by
  have hhere := diagnoses_of_quiet hone hnames hwants hquiet
  have hthere := diagnoses_of_quiet hone hnames' hwants' hquiet'
  refine ⟨hhere.trans hthere.symm, fun result hresult => ?_, fun haccepted => ?_⟩
  · rw [hresult] at hhere
    split at hhere
    · cases hhere
    · rw [Except.ok.inj hhere]
      exact diagnoses_dedupe w r files
  · have hstops : files.any (Extraction.stops r) = false := by
      simpa using haccepted
    rw [hstops, if_neg Bool.false_ne_true] at hhere
    rcases map_eq_ok_iff.1 hhere with ⟨result, hresult, _⟩
    exact ⟨result, hresult⟩

/-- Paths of one language: a file, a directory, a missing file, and the file again in another
spelling. -/
def onePaths : List String :=
  ["a.py", "d.py", "gone.py", "./a.py"]

/-- Options with passes that fail on their configuration. -/
def spoiltOptions : Json :=
  .obj [("analyzers", .ofTexts ["complexity", "style", "complexity", "security"]),
    ("config", .obj [("max_complexity", .str "many")])]

/-- Options without passes. -/
def bareOptions : Json :=
  .obj [("analyzers", .arr [])]

/-- A configuration that breaks a pass and one that asks for fewer: other errors, the same
diagnoses. -/
theorem diagnoses_independent_spoilt : ∃ result result',
    (∀ f ∈ onePaths, ∀ b, Registry.standard.adapterFor? f = some b → b = .python) ∧
      (analyze Pass.mixedWorkspace .standard "python" onePaths spoiltOptions {}).result =
        .ok result ∧
      (analyze Pass.mixedWorkspace .standard "python" onePaths bareOptions {}).result =
        .ok result' ∧
      result.errors.map (·.kind) = ["parse", "analysis", "read", "read"] ∧
      result'.errors.map (·.kind) = ["parse", "read", "read"] ∧
      result.diagnoses = result'.diagnoses ∧
      Diagnoses Pass.mixedWorkspace .standard onePaths result.diagnoses := by
  have hall : ∀ f ∈ onePaths, Registry.standard.adapterFor? f = some .python := by
    decide +kernel
  have hone : ∀ f ∈ onePaths, ∀ b, Registry.standard.adapterFor? f = some b → b = .python := by
    intro f hf b hb
    rw [hall f hf] at hb
    exact (Option.some.inj hb).symm
  have hkinds : (analyze Pass.mixedWorkspace .standard "python" onePaths spoiltOptions
      {}).result.map (fun t => t.errors.map (·.kind)) =
        .ok ["parse", "analysis", "read", "read"] := by
    decide +kernel
  have hkinds' : (analyze Pass.mixedWorkspace .standard "python" onePaths bareOptions
      {}).result.map (fun t => t.errors.map (·.kind)) = .ok ["parse", "read", "read"] := by
    decide +kernel
  have hquiet : (analyze Pass.mixedWorkspace .standard "python" onePaths spoiltOptions
      {}).signal.raised = false := by
    decide +kernel
  have hquiet' : (analyze Pass.mixedWorkspace .standard "python" onePaths bareOptions
      {}).signal.raised = false := by
    decide +kernel
  rcases map_eq_ok_iff.1 hkinds with ⟨result, hresult, hfound⟩
  rcases map_eq_ok_iff.1 hkinds' with ⟨result', hresult', hfound'⟩
  rcases diagnoses_independent hone rfl rfl rfl rfl hquiet hquiet' with ⟨hsame, hdiagnoses, _⟩
  rw [hresult, hresult'] at hsame
  exact ⟨result, result', hone, hresult, hresult', hfound, hfound', Except.ok.inj hsame,
    hdiagnoses result hresult⟩

end Native
end CrossAudit
