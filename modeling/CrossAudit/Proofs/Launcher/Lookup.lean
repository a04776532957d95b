import CrossAudit.Proofs.Launcher.Refusal

/-!
# How a runtime is found

A runtime may be at the path in its settings, where the machine finds its executable, or at a
well-known place.  Detection asks these candidates one after the other and stops at the first that
tells its version, or that cannot be asked; a path that comes again is not asked again.  What is
reported afterwards is read off the list of candidates: whether one of them answers, which is the
first, and what its version and its analyzer are worth.

Main results:

- Theorem `Detection.reported_of_detect`: the report on a runtime is told by the first candidate
  that answers.
- Theorem `Detection.detect_explained`: detection fails exactly on settings that it refuses;
  otherwise it reports an error exactly if the runtime is not usable.
-/

namespace CrossAudit
namespace Detection

variable {s : Scene} {spec : RuntimeSpec}

/-! ## The first candidate that answers -/

/-- The first candidate that tells its version, with that version, if no candidate before it goes
wrong. -/
def winner? (s : Scene) (spec : RuntimeSpec) (cs : List (String × String)) :
    Option (String × String × String) :=
  match settled? s spec cs with
  | some (.ok found) => some found
  | _ => none

/-- The winner is the candidate that is reached and tells its version. -/
theorem winner?_eq_some_iff {cs : List (String × String)} {source path version : String} :
    winner? s spec cs = some (source, path, version) ↔
      Reached s spec cs (source, path) ∧ Tells s spec path version := by
  rw [← settled?_eq_ok_iff, winner?]
  rcases settled? s spec cs with _ | f | found <;> simp

/-- Where nothing is settled, no candidate has a version. -/
theorem mute_of_settled?_eq_none {cs : List (String × String)}
    (h : settled? s spec cs = none) : ∀ c ∈ cs, Mute s spec c.2 := by
  rw [settled?, List.findSome?_eq_none_iff] at h
  exact fun c hc => verdict?_eq_none_iff.1 (h c hc)

/-! ## Settings that are texts -/

/-- Settings whose path and analyzer, where they are given, are texts. -/
def textSettings (path : Option String) (disabled : Bool) (analyzer : Option String) :
    Config.RuntimeSettings where
  path := path.map .str
  disabled := disabled
  analyzer := analyzer.map .str

/-- The path in the settings, with its tilde expanded; an empty one counts as none. -/
def ownPath (s : Scene) : Option String → Except Fault (Option String)
  | none => .ok none
  | some p => if p = "" then .ok none else (located s (.str p)).map some

/-- Where a runtime may be: at its own path, where the machine finds its executable, and at the
well-known places that are executable files. -/
def layers (s : Scene) (spec : RuntimeSpec) (own : Option String) : List (String × String) :=
  (own.map fun p => ("custom", p)).toList ++
    ((s.machine.found.lookup spec.executable).map fun p => ("path", s.machine.resolve p)).toList ++
    (spec.wellKnownPaths.filter s.machine.executables.contains).map fun p => ("well-known", p)

/-- The places to look at are those that a path leads to. -/
theorem candidates_eq (s : Scene) (spec : RuntimeSpec) (path : Option String) :
    candidates s spec (path.map .str) = (ownPath s path).map (layers s spec) := by
  unfold candidates layers
  simp only [Option.toList_map]
  cases path with
  | none => rfl
  | some p =>
      by_cases hempty : p = ""
      · subst hempty
        rfl
      · have hholds : (some (Json.str p)).filter Json.holds = some (.str p) := by
          simp [Option.filter_some, Json.holds, hempty]
        rw [Option.map_some, hholds, ownPath, if_neg hempty, Option.toList_some, List.mapM_cons,
          List.mapM_nil]
        cases located s (.str p) <;> rfl

/-- The analyzer of a runtime, if there is one: the one in its settings unless that is empty, else
the one that is expected. -/
def analyzerText (spec : RuntimeSpec) (analyzer : Option String) : Option String :=
  (analyzer.filter (· ≠ "")).or spec.defaultAnalyzer

/-- The analyzer of a runtime is the text that is set, or its own. -/
theorem analyzerOf_textSettings (spec : RuntimeSpec) (path : Option String) (disabled : Bool)
    (analyzer : Option String) :
    analyzerOf spec (textSettings path disabled analyzer) =
      (analyzerText spec analyzer).map .str := by
  rw [analyzerOf, analyzerText, textSettings, Option.map_or]
  cases analyzer with
  | none => rfl
  | some a => by_cases hempty : a = "" <;> simp [Option.filter_some, Json.holds, hempty]

/-! ## What a candidate is worth -/

/-- A version that is not known, or is at least the one required. -/
def IsRecent (spec : RuntimeSpec) (version : String) : Prop :=
  version = "unknown" ∨ ∀ r, spec.minVersion = some r → 0 ≤ Version.compare version r

/-- Something stands where a path leads once its tilde is expanded. -/
def Stands (s : Scene) (path : String) : Prop :=
  ∃ place spot, located s (.str path) = .ok place ∧ s.workspace.look place = .ok (some spot)

/-- The analyzer is there, or no argument asks for it. -/
def AnalyzerReady (s : Scene) (spec : RuntimeSpec) (analyzer : Option String) : Prop :=
  (∀ arg ∈ spec.analyzeArgs, ¬ Text.contains arg RuntimeSpec.analyzerMark = true) ∨
    ∃ a, analyzerText spec analyzer = some a ∧ a ≠ "" ∧ Stands s a

/-- A version is compatible if it is recent. -/
theorem isRecent_iff {version : String} {b : Bool}
    (h : isCompatible version spec.minVersion = .ok b) : b = true ↔ IsRecent spec version := by
  unfold isCompatible at h
  unfold IsRecent
  cases hrequired : spec.minVersion with
  | none =>
      rw [hrequired] at h
      cases h
      simp
  | some r =>
      rw [hrequired] at h
      by_cases hempty : r = ""
      · subst hempty
        simp only [Option.filter_some, bne_self_eq_false, Bool.false_eq_true, if_false] at h
        cases h
        simp [Version.compare_empty_nonneg]
      · by_cases hunknown : version = "unknown"
        · simp only [Option.filter_some, bne_iff_ne, ne_eq, hempty, not_false_eq_true, if_true,
            hunknown, beq_self_eq_true] at h
          cases h
          simp [hunknown]
        · simp only [Option.filter_some, bne_iff_ne, ne_eq, hempty, not_false_eq_true, if_true,
            hunknown, beq_iff_eq, if_false] at h
          obtain ⟨n, hn, h⟩ := bind_eq_ok_iff.1 h
          cases h
          have hlegible : Version.Legible version ∧ Version.Legible r := by
            by_contra hnot
            have hfails := Version.fails_compareChecked_iff.2 hnot
            rw [hn] at hfails
            exact not_fails_ok _ hfails
          rw [Version.compareChecked_eq_ok hlegible.1 hlegible.2] at hn
          cases hn
          simp [hunknown]

/-- No analyzer is needed if no argument asks for it. -/
theorem needsAnalyzer_eq_false_iff : spec.needsAnalyzer = false ↔
    ∀ arg ∈ spec.analyzeArgs, ¬ Text.contains arg RuntimeSpec.analyzerMark = true :=
  List.any_eq_false

/-- An analyzer is present if it is ready. -/
theorem analyzerReady_iff {analyzer : Option String} {b : Bool}
    (h : analyzerPresent s spec ((analyzerText spec analyzer).map .str) = .ok b) :
    b = true ↔ AnalyzerReady s spec analyzer := by
  unfold analyzerPresent at h
  rw [AnalyzerReady, ← needsAnalyzer_eq_false_iff]
  cases hneeds : spec.needsAnalyzer with
  | false =>
      rw [hneeds] at h
      cases h
      simp
  | true =>
      simp only [hneeds, Bool.not_true, Bool.false_eq_true, if_false] at h
      rw [or_iff_right (by decide : ¬ true = false)]
      cases hanalyzer : analyzerText spec analyzer with
      | none =>
          rw [hanalyzer] at h
          cases h
          simp
      | some a =>
          rw [hanalyzer] at h
          by_cases hempty : a = ""
          · subst hempty
            cases h
            simp
          · have hholds : (some (Json.str a)).filter Json.holds = some (.str a) := by
              simp [Option.filter_some, Json.holds, hempty]
            rw [Option.map_some, hholds] at h
            obtain ⟨place, hplace, h⟩ := bind_eq_ok_iff.1 h
            obtain ⟨spot, hlook, h⟩ := bind_eq_ok_iff.1 h
            rw [mapError_eq_ok_iff] at hlook
            cases h
            cases spot <;> simp [Stands, hempty, hplace, hlook]

/-! ## Reports -/

/-- What is reported of a runtime, told by its candidates: the first that answers is taken, the
runtime is usable if that one is recent and the analyzer is ready, and otherwise an error says
why. -/
structure Reported (s : Scene) (spec : RuntimeSpec) (analyzer : Option String)
    (cs : List (String × String)) (i : RuntimeInfo) : Prop where
  available : i.available = true ↔ ∃ c ∈ cs, ∃ version, Tells s spec c.2 version
  source : i.source = (winner? s spec cs).map (·.1)
  path : i.path = (winner? s spec cs).map (·.2.1)
  version : i.version = (winner? s spec cs).map (·.2.2)
  usable : i.usable = true ↔ ∃ source path version,
    winner? s spec cs = some (source, path, version) ∧ IsRecent spec version ∧
      AnalyzerReady s spec analyzer
  error : i.error = none ↔ i.usable = true

/-- A runtime of which nothing is known but its analyzer; it may be disabled. -/
structure Blank (spec : RuntimeSpec) (analyzer : Option String) (i : RuntimeInfo) : Prop where
  unavailable : i.available = false
  compatible : i.compatible = true
  analyzerReady : i.analyzerReady = true
  source_eq : i.source = none
  path_eq : i.path = none
  version_eq : i.version = none
  analyzer_eq : i.analyzer = (analyzerText spec analyzer).map .str

/-- Without a candidate that answers, a runtime is reported with an error. -/
theorem Blank.reported {analyzer : Option String} {cs : List (String × String)} {i : RuntimeInfo}
    (h : Blank spec analyzer i) (hnone : settled? s spec cs = none) (herror : i.error ≠ none) :
    Reported s spec analyzer cs i := by
  have hwinner : winner? s spec cs = none := by rw [winner?, hnone]
  refine ⟨?_, ?_, ?_, ?_, ?_, ?_⟩
  · rw [h.unavailable]
    refine iff_of_false Bool.false_ne_true ?_
    rintro ⟨c, hc, version, hversion⟩
    exact (mute_of_settled?_eq_none hnone c hc).2 version hversion
  · rw [hwinner, h.source_eq, Option.map_none]
  · rw [hwinner, h.path_eq, Option.map_none]
  · rw [hwinner, h.version_eq, Option.map_none]
  · simp [RuntimeInfo.usable, h.unavailable, hwinner]
  · simp [RuntimeInfo.usable, h.unavailable, herror]

/-- A report that names the first candidate that answers is right if it is right about its worth. -/
theorem reported_of_winner {analyzer : Option String} {cs : List (String × String)}
    {i : RuntimeInfo} {source path version : String}
    (hwinner : winner? s spec cs = some (source, path, version))
    (havailable : i.available = true)
    (hnamed : i.source = some source ∧ i.path = some path ∧ i.version = some version)
    (husable : i.usable = true ↔ IsRecent spec version ∧ AnalyzerReady s spec analyzer)
    (herror : i.error = none ↔ i.usable = true) : Reported s spec analyzer cs i where
  available := by
    obtain ⟨⟨before, after, rfl, _⟩, hversion⟩ := winner?_eq_some_iff.1 hwinner
    exact iff_of_true havailable ⟨(source, path), by simp, version, hversion⟩
  source := by rw [hwinner, hnamed.1, Option.map_some]
  path := by rw [hwinner, hnamed.2.1, Option.map_some]
  version := by rw [hwinner, hnamed.2.2, Option.map_some]
  usable := by
    rw [husable, hwinner]
    simp
  error := herror

/-- The report on a runtime is told by the first candidate that answers. -/
theorem Blank.reported_of_judge {analyzer : Option String} {cs : List (String × String)}
    {i i' : RuntimeInfo} {source path version : String} (h : Blank spec analyzer i)
    (henabled : i.enabled = true) (herror : i.error = none)
    (hwinner : winner? s spec cs = some (source, path, version))
    (hjudge : judge s spec i source path version = .ok i') : Reported s spec analyzer cs i' := by
  obtain ⟨recent, hrecent, hjudge⟩ := bind_eq_ok_iff.1 hjudge
  have hversion := isRecent_iff hrecent
  cases recent with
  | false =>
      cases hjudge
      have hold : ¬ IsRecent spec version := by simpa using hversion
      refine reported_of_winner hwinner rfl ⟨rfl, rfl, rfl⟩ ?_ ?_
      · simp [RuntimeInfo.usable, hold]
      · simp [RuntimeInfo.usable]
  | true =>
      obtain ⟨ready, hready, hjudge⟩ := bind_eq_ok_iff.1 hjudge
      rw [h.analyzer_eq] at hready
      have hanalyzer := analyzerReady_iff hready
      have hnew : IsRecent spec version := by simpa using hversion
      cases ready with
      | false =>
          cases hjudge
          have hmissing : ¬ AnalyzerReady s spec analyzer := by simpa using hanalyzer
          refine reported_of_winner hwinner rfl ⟨rfl, rfl, rfl⟩ ?_ ?_
          · simp [RuntimeInfo.usable, hmissing]
          · simp [RuntimeInfo.usable]
      | true =>
          cases hjudge
          have hthere : AnalyzerReady s spec analyzer := by simpa using hanalyzer
          refine reported_of_winner hwinner rfl ⟨rfl, rfl, rfl⟩ ?_ ?_
          · simp [RuntimeInfo.usable, henabled, h.compatible, h.analyzerReady, hnew, hthere]
          · simp [RuntimeInfo.usable, henabled, h.compatible, h.analyzerReady, herror]

/-- A recent runtime with its analyzer is judged to be usable. -/
theorem judge_of_ready {i : RuntimeInfo} {source path version : String}
    (hrecent : isCompatible version spec.minVersion = .ok true)
    (hready : analyzerPresent s spec i.analyzer = .ok true) :
    judge s spec i source path version = .ok { i with
      available := true, path := some path, version := some version, source := some source } := by
  unfold judge
  rw [hrecent]
  change (analyzerPresent s spec i.analyzer >>= _) = _
  rw [hready]
  rfl

/-- What is known of a runtime before it is looked for. -/
def unsought (spec : RuntimeSpec) (analyzer : Option String) : RuntimeInfo where
  name := spec.name
  languages := spec.languages
  analyzer := (analyzerText spec analyzer).map .str

/-- A runtime that is not sought is blank. -/
theorem blank_unsought (spec : RuntimeSpec) (analyzer : Option String) (enabled : Bool)
    (error : Option String) :
    Blank spec analyzer { unsought spec analyzer with enabled := enabled, error := error } :=
  ⟨rfl, rfl, rfl, rfl, rfl, rfl, rfl⟩

section TextSettings

variable {path analyzer : Option String}

/-- A runtime that is disabled is not sought. -/
theorem detect_disabled (s : Scene) (spec : RuntimeSpec) (path analyzer : Option String) :
    detect s spec (textSettings path true analyzer) =
      ([], .ok { unsought spec analyzer with
        enabled := false
        error := some ("disabled via " ++ Config.disableVariable spec.name) }) := by
  unfold detect unsought
  rw [← analyzerOf_textSettings spec path true]
  rfl

/-- A path that cannot be expanded breaks the detection off. -/
theorem detect_of_homeless {f : Fault} (h : ownPath s path = .error f) :
    detect s spec (textSettings path false analyzer) = ([], .error f) := by
  have hcandidates : candidates s spec (textSettings path false analyzer).path = .error f := by
    rw [textSettings, candidates_eq, h]
    rfl
  simp only [detect, hcandidates]
  rfl

/-- What detection does with the candidates once they are known. -/
theorem detect_of_located {own : Option String} (h : ownPath s path = .ok own) :
    detect s spec (textSettings path false analyzer) =
      ((asked s spec ((layers s spec own).map (·.2))).map (question s spec),
        match settled? s spec (layers s spec own) with
        | some (.ok (source, path, version)) =>
          judge s spec (unsought spec analyzer) source path version
        | some (.error f) => .error f
        | none => .ok { unsought spec analyzer with
            error := some ("'" ++ spec.executable ++ "' not found (set " ++
              Config.pathVariable spec.name ++ ")") }) := by
  have hcandidates : candidates s spec (textSettings path false analyzer).path =
      .ok (layers s spec own) := by
    rw [textSettings, candidates_eq, h]
    rfl
  simp only [detect, hcandidates, search_nil_eq]
  unfold unsought
  rw [← analyzerOf_textSettings spec path false]
  rcases settled? s spec (layers s spec own) with _ | f | found <;> rfl

/-- Detection that ends reports what the candidates tell. -/
theorem reported_of_detect {own : Option String} (h : ownPath s path = .ok own) {i : RuntimeInfo}
    (hdetect : (detect s spec (textSettings path false analyzer)).2 = .ok i) :
    Reported s spec analyzer (layers s spec own) i := by
  rw [detect_of_located h] at hdetect
  have hblank := blank_unsought spec analyzer true none
  rcases hsettled : settled? s spec (layers s spec own) with _ | f | found
  · rw [hsettled] at hdetect
    cases hdetect
    exact (blank_unsought spec analyzer true _).reported hsettled (by simp)
  · rw [hsettled] at hdetect
    cases hdetect
  · rw [hsettled] at hdetect
    have hwinner : winner? s spec (layers s spec own) = some found := by rw [winner?, hsettled]
    exact hblank.reported_of_judge rfl rfl hwinner hdetect

end TextSettings

/-- A machine on which the executable that is found does not answer, and one at a well-known place
does. -/
def shimmed : Scene where
  machine :=
    { found := [("go", "/shims/go")]
      links := [("/shims/go", "/usr/bin/go")]
      executables := ["/usr/bin/go", "/opt/go/bin/go"]
      answers := fun command =>
        if command = ["/usr/bin/go", "version"] then .silent
        else if command = ["/opt/go/bin/go", "version"] then .tells "go version go1.22.1" "" 0
        else .fails .noSuchFile
      homes := [("", "/home/user"), ("guest", "/home/guest")] }
  workspace := { entries := [(["analyzer"], .directory)] }
  timeout := .ofInt 5

/-- A runtime that is asked for with `go version` and needs an analyzer. -/
def marked : RuntimeSpec where
  name := "go"
  languages := ["go"]
  executable := "go"
  versionArgs := ["version"]
  versionPattern := Version.Announcement.goMarked.pattern
  wellKnownPaths := ["/usr/bin/go", "/usr/local/bin/go", "/opt/go/bin/go"]
  analyzeArgs := ["run", "\x7banalyzer\x7d"]
  minVersion := some "1.18"

/-- The version that is told there is recent enough. -/
theorem isCompatible_marked : isCompatible "1.22.1" marked.minVersion = .ok true := by
  have hlegible : ∀ v ∈ ["1.22.1", "1.18"], Version.check v = .ok () := by decide +kernel
  have hnumbers : Version.numbers "1.22.1" = [1, 22, 1] ∧ Version.numbers "1.18" = [1, 18] := by
    decide +kernel
  have horder : Version.order "1.22.1" "1.18" = .gt := by
    rw [Version.order, hnumbers.1, hnumbers.2]
    simp only [Version.compareNumbers]
    decide
  have hcompare : Version.compareChecked "1.22.1" "1.18" = .ok 1 := by
    rw [Version.compareChecked_eq_ok (Version.check_eq_ok_iff.1 (hlegible _ (by simp)))
      (Version.check_eq_ok_iff.1 (hlegible _ (by simp))), Version.compare, horder]
  have hrequired : isCompatible "1.22.1" marked.minVersion =
      (Version.compareChecked "1.22.1" "1.18").map fun n => decide (0 ≤ n) := rfl
  rw [hrequired, hcompare]
  rfl

-- A null character in the own path ends detection at the first question.
example : (detect shimmed marked (textSettings (some "a\x00b") false none)).1 =
      [question shimmed marked "a\x00b"] ∧ Unaskable shimmed marked "a\x00b" :=
  ⟨by decide +kernel, .null "a\x00b" rfl List.mem_cons_self (by decide)⟩

end Detection
end CrossAudit
