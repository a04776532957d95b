import CrossAudit.Launcher.Basic
import CrossAudit.Proofs.Launcher.VersionOrder
import CrossAudit.Proofs.Repetition

/-!
# When runtimes cannot be detected

Detection fails on settings that it does not understand.  The conditions are read off the
configuration: its file is no text, a runtime's section is no table, its path or its analyzer is no
text or lies in a home directory that is not known, or a name on the way to the analyzer is too
long. It fails where asking an executable for its version breaks off, and on versions that it cannot
compare, since a number in them has too many digits.

Main results:

- Theorem `Config.fails_runtimeSettings_iff`: settings cannot be loaded exactly if the file cannot
  be read or the section of the runtime is no table.
- Theorem `Detection.search_eq`: the search asks each path once, up to the first that settles it.
- Theorem `Detection.fails_detect_iff`: detection of one runtime fails exactly if it is not disabled
  and its path, its version or its analyzer is refused.
- Theorem `Launcher.fails_runtimes_iff`: a launcher cannot tell its runtimes exactly if they were
  not detected before and one of them is misconfigured.
-/

namespace CrossAudit

/-! ## Settings -/

namespace Config

/-- The configuration has something other than a table for a runtime. -/
def HasStraySection (config : Toml.Table) (runtime : String) : Prop :=
  ∃ sections v, config.lookup "runtimes" = some (.table sections) ∧
    sections.lookup runtime = some v ∧ ∀ ms, v ≠ .table ms

theorem fails_member_iff (v : Toml.Value) (name : String) :
    Fails (v.member name) ↔ ∀ ms, v ≠ .table ms := by
  cases v <;> simp [Toml.Value.member]

theorem fails_held_iff (v : Toml.Value) (name : String) :
    Fails (held v name) ↔ ∀ ms, v ≠ .table ms := by
  unfold held
  rw [fails_bind_iff, fails_member_iff]
  simp

/-- What is looked up for a runtime is a table, unless its section is something else. -/
theorem runtimeTable_ne_table_iff (config : Toml.Table) (runtime : String) :
    (∀ ms, runtimeTable config runtime ≠ .table ms) ↔ HasStraySection config runtime := by
  unfold runtimeTable HasStraySection
  split
  · rename_i sections hsections
    cases hv : sections.lookup runtime with
    | none => simp [hsections, hv]
    | some v => simp [hsections, hv]
  · rename_i hother
    constructor
    · intro hne
      exact absurd rfl (hne [])
    · rintro ⟨sections, v, hsections, _⟩
      exact absurd hsections (hother sections)

/-- A file that cannot be read: the reading breaks off, or the text makes its reader fail in another
way than as malformed. -/
def Unreadable (file : File) : Prop :=
  (∃ f, file = .garbled f) ∨
    ∃ text f, file = .text text ∧ Toml.parse (Text.unifyFeeds text) = .error (.fault f)

/-- Reading a file fails exactly if it is unreadable; one that is absent or malformed is empty. -/
theorem fails_read_iff (file : File) : Fails (read file) ↔ Unreadable file := by
  cases file with
  | absent => simp [read, Unreadable]
  | garbled f => simp [read, Unreadable]
  | text text =>
      rcases hparse : Toml.parse (Text.unifyFeeds text) with (_ | f) | table
      · simp [read, Unreadable, hparse]
      · simp [read, Unreadable, hparse]
      · simp [read, Unreadable, hparse]

/-- Settings cannot be loaded exactly if the file cannot be read or the section is no table. -/
theorem fails_runtimeSettings_iff (file : File) (env : Variables) (runtime : String) :
    Fails (runtimeSettings file env runtime) ↔
      Unreadable file ∨ ∃ config, read file = .ok config ∧ HasStraySection config runtime := by
  unfold runtimeSettings
  rw [fails_bind_iff, fails_read_iff]
  refine or_congr_right (exists_congr fun config => and_congr_right fun _ => ?_)
  rw [← runtimeTable_ne_table_iff]
  simp only [fails_bind_iff, fails_held_iff, fails_member_iff, not_fails_pure, and_false,
    exists_false, or_false]
  constructor
  · rintro (h | ⟨_, _, h | ⟨_, _, h⟩⟩) <;> exact h
  · exact Or.inl

end Config

/-- The settings of a runtime cannot be loaded. -/
def SettingsSource.Malformed (s : SettingsSource) (runtime : String) : Prop :=
  ∃ file env, s = .configured file env ∧
    (Config.Unreadable file ∨
      ∃ config, Config.read file = .ok config ∧ Config.HasStraySection config runtime)

/-- Loading the settings of a runtime fails exactly if they are malformed. -/
theorem SettingsSource.fails_load_iff (s : SettingsSource) (runtime : String) :
    Fails (s.load runtime) ↔ s.Malformed runtime := by
  cases s with
  | given table => simp [SettingsSource.load, SettingsSource.Malformed]
  | configured file env =>
      simp [SettingsSource.load, SettingsSource.Malformed, Config.fails_runtimeSettings_iff]

/-! ## Places -/

namespace Detection

variable {s : Scene} {spec : RuntimeSpec}

/-- A user whose home directory is not known, since the name holds a null character, there is no
such user, or the user's home is again named after a user. -/
inductive Homeless (m : Machine) (user : String) : Prop where
  | null : '\x00' ∈ user.toList → Homeless m user
  | unknown : m.homes.lookup user = none → Homeless m user
  | borrowed (home : String) : m.homes.lookup user = some home →
      Text.startsWith home "~" = true → Homeless m user

/-- A path in the home directory of a user that is not known. -/
def NamesStranger (m : Machine) (path : String) : Prop :=
  (PathName.ofString path).root = "" ∧ ∃ user rest,
    (PathName.ofString path).components = String.ofList ('~' :: user) :: rest ∧
      Homeless m (String.ofList user)

/-- A setting that names no location. -/
def Unlocatable (m : Machine) (v : Json) : Prop :=
  ∀ path, v = .str path → NamesStranger m path

/-- A setting that names no location, or one that cannot be looked at. -/
def Unfollowable (s : Scene) (v : Json) : Prop :=
  Unlocatable s.machine v ∨ ∃ path, located s v = .ok path ∧ Fails (s.workspace.look path)

/-- Looking for a home directory fails exactly for those who have none. -/
theorem fails_homeOf_iff (m : Machine) (user : String) :
    Fails (m.homeOf user) ↔ Homeless m user := by
  unfold Machine.homeOf Machine.holdsNull
  by_cases hnull : '\x00' ∈ user.toList
  · simpa [hnull] using Homeless.null hnull
  · cases hhome : m.homes.lookup user with
    | none => simpa [hnull] using Homeless.unknown hhome
    | some home =>
        by_cases hborrowed : Text.startsWith home "~" = true
        · simpa [hnull, hborrowed] using Homeless.borrowed home hhome hborrowed
        · simp only [List.contains_eq_mem, hnull, decide_false, Bool.false_eq_true, if_false,
            hborrowed, not_fails_ok, false_iff]
          rintro (h | h | ⟨home', h, h'⟩)
          · exact hnull h
          · rw [hhome] at h
            cases h
          · rw [hhome, Option.some.injEq] at h
            exact hborrowed (h ▸ h')

/-- Expanding a path fails exactly if it begins at a home directory that is not known. -/
theorem fails_expand_iff (m : Machine) (p : PathName) :
    Fails (expand m p) ↔ p.root = "" ∧ ∃ user rest,
      p.components = String.ofList ('~' :: user) :: rest ∧ Homeless m (String.ofList user) := by
  unfold expand
  split
  · rename_i first rest hroot hcomponents
    rw [hroot, hcomponents]
    split
    · rename_i user hfirst
      have hname : first = String.ofList ('~' :: user) := by
        rw [← hfirst, String.ofList_toList]
      simp [hname, fails_homeOf_iff, String.ofList_inj]
    · rename_i hfirst
      simp only [not_fails_ok, false_iff, true_and, not_exists]
      rintro user rest' ⟨hcons, _⟩
      cases hcons
      exact hfirst user String.toList_ofList
  · rename_i hother
    simp only [not_fails_ok, false_iff, not_and, not_exists]
    intro hroot user rest hcomponents
    exact absurd hcomponents (hother _ rest hroot)

/-- A setting gives no location exactly if it is no text, or one in an unknown home directory. -/
theorem fails_located_iff (s : Scene) (v : Json) :
    Fails (located s v) ↔ Unlocatable s.machine v := by
  unfold located Unlocatable
  cases v with
  | str path => simp [fails_bind_iff, pathOf, fails_expand_iff, NamesStranger]
  | _ => simp [fails_bind_iff, pathOf]

/-- The analyzer cannot be looked for exactly if it is needed, given, and cannot be followed. -/
theorem fails_analyzerPresent_iff (analyzer : Option Json) :
    Fails (analyzerPresent s spec analyzer) ↔ spec.needsAnalyzer = true ∧
      ∃ a, analyzer.filter Json.holds = some a ∧ Unfollowable s a := by
  unfold analyzerPresent
  by_cases hneeds : spec.needsAnalyzer = true
  · cases hgiven : analyzer.filter Json.holds with
    | none => simp [hneeds]
    | some a =>
        simp [hneeds, fails_bind_iff, fails_located_iff, Unfollowable]
  · simp [hneeds]

/-- Where a runtime may be cannot be told exactly if its own path names no location. -/
theorem fails_candidates_iff (s : Scene) (spec : RuntimeSpec) (custom : Option Json) :
    Fails (candidates s spec custom) ↔
      ∃ v, custom.filter Json.holds = some v ∧ Unlocatable s.machine v := by
  unfold candidates
  cases custom.filter Json.holds with
  | none => simp
  | some v => simp [fails_located_iff]

/-! ## Asking for a version -/

/-- A path that cannot be asked for its version: on a machine that is not simulated, a part of the
command holds a null character; asking breaks off; or the pattern goes wrong on what is told. -/
inductive Unaskable (s : Scene) (spec : RuntimeSpec) (path : String) : Prop where
  | null (part : String) : s.machine.simulated = false → part ∈ path :: spec.versionArgs →
      '\x00' ∈ part.toList → Unaskable s spec path
  | breaksOff (f : Fault) : s.machine.answers (path :: spec.versionArgs) = .breaksOff f →
      Unaskable s spec path
  | pattern (output errors : String) :
      s.machine.answers (path :: spec.versionArgs) = .tells output errors 0 →
      Fails (spec.versionPattern (output ++ errors)) → Unaskable s spec path

/-- Asking for a version fails exactly if it cannot be asked for. -/
theorem fails_versionOf?_iff (path : String) :
    Fails (versionOf? s spec path) ↔ Unaskable s spec path := by
  unfold versionOf? Machine.answerOf
  by_cases hnull : (!s.machine.simulated &&
      (path :: spec.versionArgs).any Machine.holdsNull) = true
  · rw [if_pos hnull]
    rw [Bool.and_eq_true, Bool.not_eq_true', List.any_eq_true] at hnull
    obtain ⟨hreal, part, hpart, hholds⟩ := hnull
    simp only [fails_error, true_iff]
    exact .null part hreal hpart (by simpa [Machine.holdsNull] using hholds)
  · rw [if_neg hnull]
    -- Without a null character, what counts is the answer of the machine.
    have hanswer : Unaskable s spec path ↔
        (∃ f, s.machine.answers (path :: spec.versionArgs) = .breaksOff f) ∨
          ∃ output errors, s.machine.answers (path :: spec.versionArgs) = .tells output errors 0 ∧
            Fails (spec.versionPattern (output ++ errors)) := by
      constructor
      · rintro (⟨part, hreal, hpart, hholds⟩ | ⟨f, hf⟩ | ⟨output, errors, htells, hpattern⟩)
        · refine absurd ?_ hnull
          rw [Bool.and_eq_true, Bool.not_eq_true', List.any_eq_true]
          exact ⟨hreal, part, hpart, by simpa [Machine.holdsNull] using hholds⟩
        · exact .inl ⟨f, hf⟩
        · exact .inr ⟨output, errors, htells, hpattern⟩
      · rintro (⟨f, hf⟩ | ⟨output, errors, htells, hpattern⟩)
        · exact .breaksOff f hf
        · exact .pattern output errors htells hpattern
    rw [hanswer]
    cases hcase : s.machine.answers (path :: spec.versionArgs) with
    | tells output errors code =>
        by_cases hcode : code = 0
        · subst hcode
          simp
        · simp [hcode]
    | silent => simp
    | fails e => simp
    | breaksOff f => simp

/-- The version that a path tells: the group of the pattern in a successful answer, or that it is
unknown if the answer does not match. -/
inductive Tells (s : Scene) (spec : RuntimeSpec) (path : String) : String → Prop where
  | matched (output errors version : String) :
      s.machine.answerOf (path :: spec.versionArgs) = .tells output errors 0 →
      spec.versionPattern (output ++ errors) = .ok (some (some version)) → Tells s spec path version
  | unmatched (output errors : String) :
      s.machine.answerOf (path :: spec.versionArgs) = .tells output errors 0 →
      spec.versionPattern (output ++ errors) = .ok none → Tells s spec path "unknown"

/-- A path without a version: it can be asked, and tells none. -/
def Mute (s : Scene) (spec : RuntimeSpec) (path : String) : Prop :=
  ¬ Unaskable s spec path ∧ ∀ version, ¬ Tells s spec path version

/-- A version is read exactly if it is told. -/
theorem versionOf?_eq_some_iff {path version : String} :
    versionOf? s spec path = .ok (some version) ↔ Tells s spec path version := by
  constructor
  · intro h
    unfold versionOf? at h
    split at h
    · rename_i output errors hanswer
      obtain ⟨found, hpattern, hfound⟩ := map_eq_ok_iff.1 h
      rcases found with _ | group
      · cases hfound
        exact .unmatched output errors hanswer hpattern
      · cases hfound
        exact .matched output errors version hanswer hpattern
    · cases h
    · cases h
  · rintro (⟨output, errors, _, hanswer, hpattern⟩ | ⟨output, errors, hanswer, hpattern⟩) <;>
      simp [versionOf?, hanswer, hpattern, Except.map]

/-- No version is read exactly from a path without one. -/
theorem versionOf?_eq_none_iff {path : String} :
    versionOf? s spec path = .ok none ↔ Mute s spec path := by
  unfold Mute
  rw [← fails_versionOf?_iff]
  simp only [← versionOf?_eq_some_iff]
  rcases versionOf? s spec path with f | _ | version <;> simp

/-! ## The first candidate that settles the search -/

/-- What asking a candidate settles: it is taken with the version that it tells, or the asking goes
wrong.  A candidate without a version settles nothing. -/
def verdict? (s : Scene) (spec : RuntimeSpec) (c : String × String) :
    Option (Except Fault (String × String × String)) :=
  match versionOf? s spec c.2 with
  | .ok none => none
  | .ok (some version) => some (.ok (c.1, c.2, version))
  | .error f => some (.error f)

/-- What the first candidate settles that settles anything. -/
def settled? (s : Scene) (spec : RuntimeSpec) (cs : List (String × String)) :
    Option (Except Fault (String × String × String)) :=
  cs.findSome? (verdict? s spec)

/-- Whether asking a path settles the search. -/
def settles (s : Scene) (spec : RuntimeSpec) (path : String) : Bool :=
  match versionOf? s spec path with
  | .ok none => false
  | _ => true

/-- The distinct paths of a list, up to and including the first that settles the search. -/
def asked (s : Scene) (spec : RuntimeSpec) (paths : List String) : List String :=
  let distinct := paths.eraseDups
  distinct.take (distinct.findIdx (settles s spec) + 1)

/-- What is done to ask a path for its version. -/
def question (s : Scene) (spec : RuntimeSpec) (path : String) : Event :=
  .probe (path :: spec.versionArgs) s.timeout

/-- No path is asked twice. -/
theorem nodup_asked (s : Scene) (spec : RuntimeSpec) (paths : List String) :
    (asked s spec paths).Nodup :=
  (nodup_eraseDups paths).sublist (List.take_sublist _ _)

/-- A path that settles the search is the last one asked. -/
theorem asked_cons_of_settles {path : String} (h : settles s spec path = true)
    (paths : List String) : asked s spec (path :: paths) = [path] := by
  simp [asked, List.eraseDups_cons, List.findIdx_cons, h]

/-- Behind a path that settles nothing, the others are asked. -/
theorem asked_cons_of_not_settles {path : String} (h : settles s spec path = false)
    (paths : List String) :
    asked s spec (path :: paths) = path :: asked s spec (paths.filter fun p => !p == path) := by
  simp [asked, List.eraseDups_cons, List.findIdx_cons, h]

/-- The outcome of a search by what its first decisive candidate settles. -/
def outcomeOf : Option (Except Fault (String × String × String)) →
    Except Fault (Option (String × String × String))
  | none => .ok none
  | some (.ok found) => .ok (some found)
  | some (.error f) => .error f

/-- The search asks each path that was not tried before once, up to the first that settles it. -/
theorem search_eq (cs : List (String × String)) {tried : List String}
    (htried : ∀ p ∈ tried, versionOf? s spec p = .ok none) :
    search s spec tried cs =
      ((asked s spec ((cs.map (·.2)).filter fun p => !tried.contains p)).map (question s spec),
        outcomeOf (settled? s spec cs)) := by
  induction cs generalizing tried with
  | nil => rfl
  | cons c rest ih =>
      obtain ⟨source, path⟩ := c
      rw [search, settled?, List.findSome?_cons, List.map_cons, List.filter_cons]
      by_cases hold : path ∈ tried
      · have hnone : verdict? s spec (source, path) = none := by
          simp [verdict?, htried path hold]
        simp [hold, hnone, ih htried, settled?]
      · cases hversion : versionOf? s spec path with
        | error f =>
            have hsettles : settles s spec path = true := by simp [settles, hversion]
            simp [hold, hversion, verdict?, asked_cons_of_settles hsettles, question, outcomeOf]
        | ok version? =>
            cases version? with
            | some version =>
                have hsettles : settles s spec path = true := by simp [settles, hversion]
                simp [hold, hversion, verdict?, asked_cons_of_settles hsettles, question, outcomeOf]
            | none =>
                have hsettles : settles s spec path = false := by simp [settles, hversion]
                -- What is left are the paths that differ from the tried ones and from this one.
                have hleft : ∀ paths : List String,
                    (paths.filter fun p => !(path :: tried).contains p) =
                      (paths.filter fun p => !tried.contains p).filter fun p => !p == path := by
                  intro paths
                  rw [List.filter_filter]
                  exact List.filter_congr fun p _ => by
                    rw [List.contains_cons, Bool.not_or]
                rw [ih (List.forall_mem_cons.2 ⟨hversion, htried⟩), hleft]
                simp [hold, hversion, verdict?, asked_cons_of_not_settles hsettles, question,
                  settled?]

/-- A search puts its questions up to the place that settles it. -/
theorem search_nil_eq (s : Scene) (spec : RuntimeSpec) (cs : List (String × String)) :
    search s spec [] cs =
      ((asked s spec (cs.map (·.2))).map (question s spec), outcomeOf (settled? s spec cs)) := by
  rw [search_eq cs (List.forall_mem_nil _)]
  simp

/-- A candidate that is reached: none of those before it has a version. -/
def Reached (s : Scene) (spec : RuntimeSpec) (cs : List (String × String)) (c : String × String) :
    Prop :=
  ∃ before after, cs = before ++ c :: after ∧ ∀ b ∈ before, Mute s spec b.2

/-- Nothing is settled exactly by a candidate without a version. -/
theorem verdict?_eq_none_iff {c : String × String} :
    verdict? s spec c = none ↔ Mute s spec c.2 := by
  rw [← versionOf?_eq_none_iff]
  unfold verdict?
  rcases versionOf? s spec c.2 with f | _ | version <;> simp

/-- What is settled is settled by a candidate that is reached. -/
theorem settled?_eq_some_iff {cs : List (String × String)}
    {verdict : Except Fault (String × String × String)} :
    settled? s spec cs = some verdict ↔
      ∃ c, Reached s spec cs c ∧ verdict? s spec c = some verdict := by
  unfold settled? Reached
  rw [List.findSome?_eq_some_iff]
  simp only [verdict?_eq_none_iff]
  constructor
  · rintro ⟨before, c, after, rfl, hc, hbefore⟩
    exact ⟨c, ⟨before, after, rfl, hbefore⟩, hc⟩
  · rintro ⟨c, ⟨before, after, rfl, hbefore⟩, hc⟩
    exact ⟨before, c, after, rfl, hc, hbefore⟩

/-- A candidate is found exactly if it is reached and tells its version. -/
theorem settled?_eq_ok_iff {cs : List (String × String)} {source path version : String} :
    settled? s spec cs = some (.ok (source, path, version)) ↔
      Reached s spec cs (source, path) ∧ Tells s spec path version := by
  rw [settled?_eq_some_iff, ← versionOf?_eq_some_iff]
  constructor
  · rintro ⟨⟨source', path'⟩, hreached, hverdict⟩
    unfold verdict? at hverdict
    split at hverdict
    · cases hverdict
    · rename_i version' hversion
      cases hverdict
      exact ⟨hreached, hversion⟩
    · cases hverdict
  · rintro ⟨hreached, hversion⟩
    exact ⟨(source, path), hreached, by simp [verdict?, hversion]⟩

/-- The search fails exactly if a candidate is reached that cannot be asked. -/
theorem fails_search_iff (cs : List (String × String)) :
    Fails (search s spec [] cs).2 ↔ ∃ c, Reached s spec cs c ∧ Unaskable s spec c.2 := by
  have hsettled : Fails (search s spec [] cs).2 ↔ ∃ f, settled? s spec cs = some (.error f) := by
    rw [search_nil_eq]
    rcases settled? s spec cs with _ | f | found <;> simp [outcomeOf]
  rw [hsettled]
  simp only [settled?_eq_some_iff, ← fails_versionOf?_iff]
  rw [exists_comm]
  refine exists_congr fun c => ?_
  rw [exists_and_left]
  refine and_congr_right fun _ => ?_
  unfold verdict?
  rcases versionOf? s spec c.2 with f | _ | version <;> simp

/-! ## Detection of one runtime -/

/-- A version cannot be held against the one required exactly if there is one, the version is known,
and one of the two cannot be read. -/
theorem fails_isCompatible_iff (version : String) (required : Option String) :
    Fails (isCompatible version required) ↔ ∃ r, required = some r ∧ r ≠ "" ∧
      version ≠ "unknown" ∧ ¬ (Version.Legible version ∧ Version.Legible r) := by
  unfold isCompatible
  cases required with
  | none => simp
  | some r =>
      by_cases hempty : r = ""
      · simp [Option.filter_some, hempty]
      · by_cases hunknown : version = "unknown"
        · simp [Option.filter_some, hempty, hunknown]
        · simp [Option.filter_some, hempty, hunknown, Version.fails_compareChecked_iff]

/-- Judging a runtime fails if its version cannot be compared, or if it is recent and its analyzer
cannot be sought. -/
theorem fails_judge_iff (i : RuntimeInfo) (source path version : String) :
    Fails (judge s spec i source path version) ↔ Fails (isCompatible version spec.minVersion) ∨
      isCompatible version spec.minVersion = .ok true ∧
        Fails (analyzerPresent s spec i.analyzer) := by
  unfold judge
  rw [fails_bind_iff]
  refine or_congr_right ?_
  constructor
  · rintro ⟨_ | _, hcompatible, h⟩
    · simp at h
    · simp only [Bool.not_true, Bool.false_eq_true, if_false] at h
      rw [fails_bind_iff] at h
      refine ⟨hcompatible, h.resolve_right ?_⟩
      rintro ⟨present, _, h⟩
      cases present <;> simp at h
  · rintro ⟨hcompatible, h⟩
    refine ⟨true, hcompatible, ?_⟩
    simp only [Bool.not_true, Bool.false_eq_true, if_false]
    exact fails_bind_iff.2 (Or.inl h)

/-- The analyzer of a runtime: the one in its settings, else the one that is expected. -/
def analyzerOf (spec : RuntimeSpec) (settings : Config.RuntimeSettings) : Option Json :=
  (settings.analyzer.filter Json.holds).or (spec.defaultAnalyzer.map Json.str)

/-- What is wrong with settings: the path names no location; a candidate is reached that cannot be
asked for its version; or one is found, but its version cannot be held against the one required; or
it is found and is new enough, but the analyzer that it needs cannot be followed. -/
inductive Refused (s : Scene) (spec : RuntimeSpec) (settings : Config.RuntimeSettings) : Prop where
  | path (v : Json) : settings.path.filter Json.holds = some v → Unlocatable s.machine v →
      Refused s spec settings
  | probe (places : List (String × String)) (source path : String) :
      candidates s spec settings.path = .ok places → Reached s spec places (source, path) →
      Unaskable s spec path → Refused s spec settings
  | version (places : List (String × String)) (source path version required : String) :
      candidates s spec settings.path = .ok places → Reached s spec places (source, path) →
      Tells s spec path version →
      spec.minVersion = some required → required ≠ "" → version ≠ "unknown" →
      ¬ (Version.Legible version ∧ Version.Legible required) → Refused s spec settings
  | analyzer (places : List (String × String)) (source path version : String) (a : Json) :
      candidates s spec settings.path = .ok places → Reached s spec places (source, path) →
      Tells s spec path version →
      isCompatible version spec.minVersion = .ok true → spec.needsAnalyzer = true →
      (analyzerOf spec settings).filter Json.holds = some a → Unfollowable s a →
      Refused s spec settings

/-- Once the places are known, what is refused is told by what the search settles. -/
theorem refused_iff_of_places {settings : Config.RuntimeSettings} {places : List (String × String)}
    (hplaces : candidates s spec settings.path = .ok places) :
    Refused s spec settings ↔ (∃ c, Reached s spec places c ∧ Unaskable s spec c.2) ∨
      ∃ source path version, settled? s spec places = some (.ok (source, path, version)) ∧
        (Fails (isCompatible version spec.minVersion) ∨
          isCompatible version spec.minVersion = .ok true ∧
            Fails (analyzerPresent s spec (analyzerOf spec settings))) := by
  have hpath : ¬ ∃ v, settings.path.filter Json.holds = some v ∧ Unlocatable s.machine v := by
    rw [← fails_candidates_iff s spec, hplaces]
    exact not_fails_ok _
  simp only [fails_isCompatible_iff, fails_analyzerPresent_iff, settled?_eq_ok_iff]
  constructor
  · intro hrefused
    cases hrefused with
    | path v hv hbad => exact absurd ⟨v, hv, hbad⟩ hpath
    | probe places' source path hplaces' hreached hbad =>
        cases hplaces.symm.trans hplaces'
        exact .inl ⟨(source, path), hreached, hbad⟩
    | version places' source path version r hplaces' hreached hversion hr hne hknown hbad =>
        cases hplaces.symm.trans hplaces'
        exact .inr ⟨source, path, version, ⟨hreached, hversion⟩, .inl ⟨r, hr, hne, hknown, hbad⟩⟩
    | analyzer places' source path version a hplaces' hreached hversion hcompatible hneeds ha hbad =>
        cases hplaces.symm.trans hplaces'
        exact .inr ⟨source, path, version, ⟨hreached, hversion⟩,
          .inr ⟨hcompatible, hneeds, a, ha, hbad⟩⟩
  · rintro (⟨⟨source, path⟩, hreached, hbad⟩ | ⟨source, path, version, ⟨hreached, hversion⟩, hbad⟩)
    · exact .probe places source path hplaces hreached hbad
    · rcases hbad with ⟨r, hr, hne, hknown, hbad⟩ | ⟨hcompatible, hneeds, a, ha, hbad⟩
      · exact .version places source path version r hplaces hreached hversion hr hne hknown hbad
      · exact .analyzer places source path version a hplaces hreached hversion hcompatible hneeds ha
          hbad

/-- Detection fails exactly if a runtime is not disabled and its settings are refused. -/
theorem fails_detect_iff (settings : Config.RuntimeSettings) :
    Fails (detect s spec settings).2 ↔ settings.disabled = false ∧ Refused s spec settings := by
  unfold detect
  cases hdisabled : settings.disabled with
  | true => simp
  | false =>
      simp only [Bool.false_eq_true, if_false, true_and]
      cases hplaces : candidates s spec settings.path with
      | error f =>
          have hfails : Fails (candidates s spec settings.path) := ⟨f, hplaces⟩
          rcases (fails_candidates_iff s spec _).1 hfails with ⟨v, hv, hbad⟩
          simp only [fails_error, true_iff]
          exact Refused.path v hv hbad
      | ok places =>
          rw [refused_iff_of_places hplaces, ← fails_search_iff]
          simp only [search_nil_eq]
          rcases hsettled : settled? s spec places with _ | f | ⟨source, path, version⟩
          · simp [outcomeOf]
          · simp [outcomeOf]
          · simp [outcomeOf, fails_judge_iff, analyzerOf]

end Detection

/-! ## Detection of all runtimes -/

namespace Launcher

variable {l : Launcher}

/-- The settings of a runtime cannot be loaded, or are refused although it is not disabled. -/
def Misconfigured (l : Launcher) (spec : RuntimeSpec) : Prop :=
  l.settings.Malformed spec.name ∨ ∃ settings, l.settings.load spec.name = .ok settings ∧
    settings.disabled = false ∧ Detection.Refused l.scene spec settings

/-- Detecting the runtime of a specification fails exactly if it is misconfigured. -/
theorem fails_detectSpec_iff (spec : RuntimeSpec) :
    Fails (l.detectSpec spec).2 ↔ l.Misconfigured spec := by
  unfold detectSpec Misconfigured
  rw [← SettingsSource.fails_load_iff]
  cases hload : l.settings.load spec.name with
  | error f => simp
  | ok settings => simp [Detection.fails_detect_iff]

/-- Detecting runtimes one after the other fails exactly if one of them is misconfigured. -/
theorem fails_detectAll_iff (specs : List RuntimeSpec) (known : List (String × RuntimeInfo)) :
    Fails (l.detectAll specs known).2 ↔ ∃ spec ∈ specs, l.Misconfigured spec := by
  induction specs generalizing known with
  | nil => simp [detectAll]
  | cons spec specs ih =>
      have hspec := fails_detectSpec_iff (l := l) spec
      unfold detectAll
      rcases hdetect : l.detectSpec spec with ⟨events, _ | i⟩
      · rw [hdetect] at hspec
        simp only [fails_error, true_iff] at hspec ⊢
        exact ⟨spec, List.mem_cons_self, hspec⟩
      · rw [hdetect] at hspec
        simp only [not_fails_ok, false_iff] at hspec
        simp [ih, hspec]

/-- The runtimes cannot be told exactly if they are not known and one of them is misconfigured. -/
theorem fails_runtimes_iff :
    Fails l.runtimes.1 ↔
      l.detected = none ∧ ∃ spec ∈ l.specs.map (·.2), l.Misconfigured spec := by
  rw [← fails_detectAll_iff (l := l) _ l.nativeRuntimes]
  unfold runtimes
  cases hdetected : l.detected with
  | some known => simp
  | none =>
      unfold detect
      rcases hall : l.detectAll (l.specs.map (·.2)) l.nativeRuntimes with ⟨events, _ | known⟩
      · simp [hall]
      · simp [hall]

end Launcher
end CrossAudit
