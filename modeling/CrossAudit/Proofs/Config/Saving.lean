import CrossAudit.Config.Settings
import CrossAudit.Proofs.Failing
import CrossAudit.Proofs.Toml.Alike

/-!
# Settings that are saved

Each save reads the whole configuration, changes the table of one runtime and writes everything
again.  After any saves, a setting is what was given for it last, or what was there before; whatever
was not given stays.  Since names may change their order when a configuration is written and read,
values are compared up to that order.

Main results:

- Theorem `Config.follows_change`: one change sets what it gives and nothing else.
- Theorem `Config.Follows.trans`: changes one after the other set what each gives, the last one
  winning.
- Theorem `Config.exists_saveAll`: saves end well and follow each other if what they write can be
  read again.
- Theorem `Config.saved_settings_loaded`: the settings that are loaded after saves.
-/

namespace CrossAudit
namespace Config

open Toml (Alike Value)

/-! ## Views of a configuration -/

/-- A configuration whose runtimes, if it has any, are a table of tables. -/
def TablesOnly (config : Toml.Table) : Prop :=
  ∀ v, config.lookup "runtimes" = some v → ∃ sections, v = .table sections ∧
    ∀ runtime w, sections.lookup runtime = some w → ∃ ms, w = .table ms

/-- The members of a value; what is no table has none. -/
def membersIn : Option Value → Toml.Table
  | some (.table ms) => ms
  | _ => []

/-- The tables of the runtimes. -/
def sections (config : Toml.Table) : Toml.Table :=
  membersIn (config.lookup "runtimes")

/-- The table of a runtime. -/
def sectionOf (config : Toml.Table) (runtime : String) : Toml.Table :=
  membersIn ((sections config).lookup runtime)

/-- A member of the table of a runtime. -/
def settingOf (config : Toml.Table) (runtime name : String) : Option Value :=
  (sectionOf config runtime).lookup name

namespace TablesOnly

variable {config : Toml.Table} (h : TablesOnly config)

include h

/-- Among the runtimes of such a configuration every value is a table. -/
theorem exists_table {runtime : String} {v : Value}
    (hv : (sections config).lookup runtime = some v) :
    ∃ ms, v = .table ms := by
  unfold sections at hv
  cases hruntimes : config.lookup "runtimes" with
  | none =>
      rw [hruntimes] at hv
      cases hv
  | some w =>
      obtain ⟨tables, rfl, htables⟩ := h w hruntimes
      rw [hruntimes] at hv
      exact htables runtime v hv

/-- The tables of the runtimes are what is looked up, with no tables for want of any. -/
theorem getD_runtimes : (config.lookup "runtimes").getD (.table []) = .table (sections config) := by
  unfold sections
  cases hruntimes : config.lookup "runtimes" with
  | none => rfl
  | some w =>
      obtain ⟨tables, rfl, _⟩ := h w hruntimes
      rfl

/-- The table of a runtime is what is looked up, with an empty one for want of it. -/
theorem getD_section (runtime : String) :
    ((sections config).lookup runtime).getD (.table []) = .table (sectionOf config runtime) := by
  unfold sectionOf
  cases hsection : (sections config).lookup runtime with
  | none => rfl
  | some v =>
      obtain ⟨ms, rfl⟩ := h.exists_table hsection
      rfl

end TablesOnly

/-! ## Values that may be missing -/

/-- Two values that may be missing are alike: both are missing, or they are alike. -/
abbrev Like (v w : Option Value) : Prop :=
  Option.Rel Alike v w

/-- A value that may be missing is like itself. -/
theorem Like.refl (v : Option Value) : Like v v := by
  cases v with
  | none => exact .none
  | some v => exact .some (.refl v)

/-- Likeness of values that may be missing is transitive. -/
theorem Like.trans {v w u : Option Value} (h : Like v w) (h' : Like w u) : Like v u := by
  cases h with
  | none => exact h'
  | some h =>
      cases h' with
      | some h' => exact .some (h.trans h')

/-- Falling back on like values keeps values alike. -/
theorem Like.or {v w v' w' : Option Value} (h : Like v w) (h' : Like v' w') :
    Like (v.or v') (w.or w') := by
  cases h with
  | none => simpa using h'
  | some h => exact .some h

/-- Like values have like members. -/
theorem Like.lookup_membersIn {v w : Option Value} (h : Like v w) (name : String) :
    Like ((membersIn v).lookup name) ((membersIn w).lookup name) := by
  cases h with
  | none => exact .refl _
  | @some v w h =>
      cases h with
      | refl _ => exact .refl _
      | array _ _ => exact .refl _
      | table hnames hmembers => exact Toml.alike_table_iff.1 (.table hnames hmembers) name

section OfAlike

variable {config config' : Toml.Table} (h : Alike (.table config) (.table config'))

include h

/-- Like configurations have like tables for a runtime. -/
theorem like_sections (runtime : String) :
    Like ((sections config).lookup runtime) ((sections config').lookup runtime) :=
  Like.lookup_membersIn (Toml.alike_table_iff.1 h "runtimes") runtime

/-- Like configurations have like settings of a runtime. -/
theorem like_settingOf (runtime name : String) :
    Like (settingOf config runtime name) (settingOf config' runtime name) :=
  (like_sections h runtime).lookup_membersIn name

/-- A configuration like one of tables only is one too. -/
theorem TablesOnly.of_alike (hconfig : TablesOnly config) : TablesOnly config' := by
  intro v hv
  have hlike := Toml.alike_table_iff.1 h "runtimes"
  rw [hv] at hlike
  cases hold : config.lookup "runtimes" with
  | none =>
      rw [hold] at hlike
      cases hlike
  | some w =>
      obtain ⟨tables, rfl, htables⟩ := hconfig w hold
      rw [hold] at hlike
      cases hlike with
      | some halike =>
          obtain ⟨tables', rfl⟩ := halike.exists_table
          refine ⟨tables', rfl, fun runtime u hu => ?_⟩
          have hlike := Toml.alike_table_iff.1 halike runtime
          rw [hu] at hlike
          cases hsection : tables.lookup runtime with
          | none =>
              rw [hsection] at hlike
              cases hlike
          | some t =>
              obtain ⟨ms, rfl⟩ := htables runtime t hsection
              rw [hsection] at hlike
              cases hlike with
              | some halike => exact halike.exists_table

end OfAlike

/-! ## What changes give -/

variable {α : Type}

/-- What was given last for a setting of a runtime. -/
def lastGiven (field : Change → Option α) (runtime : String) (calls : List (String × Change)) :
    Option α :=
  (calls.filterMap fun call => if call.1 == runtime then field call.2 else none).getLast?

/-- What more calls give wins over what was given before. -/
theorem lastGiven_append (field : Change → Option α) (runtime : String)
    (calls more : List (String × Change)) :
    lastGiven field runtime (calls ++ more) =
      (lastGiven field runtime more).or (lastGiven field runtime calls) := by
  rw [lastGiven, List.filterMap_append, List.getLast?_append]
  rfl

/-- One call gives its own setting, to its own runtime. -/
theorem lastGiven_singleton (field : Change → Option α) (runtime : String)
    (call : String × Change) :
    lastGiven field runtime [call] = if call.1 == runtime then field call.2 else none := by
  rw [lastGiven, List.filterMap_cons, List.filterMap_nil]
  cases (if call.1 == runtime then field call.2 else none) <;> rfl

/-- The value that changes give to a member of the table of a runtime. -/
def given (calls : List (String × Change)) (runtime name : String) : Option Value :=
  if name = "path" then (lastGiven (·.path) runtime calls).map .text
  else if name = "disabled" then (lastGiven (·.disabled) runtime calls).map .truth
  else if name = "analyzer" then (lastGiven (·.analyzer) runtime calls).map .text
  else none

/-- A member that more calls give wins over one that was given before. -/
theorem given_append (calls more : List (String × Change)) (runtime name : String) :
    given (calls ++ more) runtime name =
      (given more runtime name).or (given calls runtime name) := by
  unfold given
  simp only [lastGiven_append, Option.map_or]
  split_ifs <;> rfl

/-- A call for another runtime gives nothing. -/
theorem given_of_ne {runtime : String} {call : String × Change} (h : call.1 ≠ runtime)
    (name : String) : given [call] runtime name = none := by
  simp [given, lastGiven_singleton, h]

/-- A name that is none of the three settings is never given. -/
theorem given_of_notMem {name : String} (h : name ∉ ["path", "disabled", "analyzer"])
    (calls : List (String × Change)) (runtime : String) : given calls runtime name = none := by
  simp only [List.mem_cons, List.not_mem_nil, or_false, not_or] at h
  rw [given, if_neg h.1, if_neg h.2.1, if_neg h.2.2]

/-- A setting that is given replaces the member of its name and no other. -/
theorem lookup_setGiven (make : α → Value) (key : String) (x : Option α) (old : Toml.Table)
    (name : String) :
    ((x.map fun a => (key, make a)).toList.foldl (fun t m => Assoc.set m.1 m.2 t) old).lookup name =
      if name = key then (x.map make).or (old.lookup name) else old.lookup name := by
  cases x with
  | none => simp
  | some a => simp [Assoc.lookup_set]

/-- What a change sets in a table is what it gives. -/
theorem lookup_members (runtime : String) (c : Change) (old : Toml.Table) (name : String) :
    (c.members.foldl (fun t m => Assoc.set m.1 m.2 t) old).lookup name =
      (given [(runtime, c)] runtime name).or (old.lookup name) := by
  rw [Change.members, List.foldl_append, List.foldl_append, lookup_setGiven Value.text,
    lookup_setGiven Value.truth, lookup_setGiven Value.text]
  simp only [given, lastGiven_singleton, beq_self_eq_true, if_true]
  split_ifs <;> simp_all

/-! ## One change -/

/-- Members can be set in every table. -/
theorem setAll_table (old ms : Toml.Table) :
    setAll (.table old) ms = .ok (.table (ms.foldl (fun t m => Assoc.set m.1 m.2 t) old)) := by
  cases ms <;> rfl

/-- A configuration with other tables for its runtimes. -/
def withSections (config tables : Toml.Table) : Toml.Table :=
  Assoc.set "runtimes" (.table tables) config

@[simp]
theorem sections_withSections (config tables : Toml.Table) :
    sections (withSections config tables) = tables := by
  simp [sections, withSections, Assoc.lookup_set, membersIn]

/-- Other tables for the runtimes leave all other members in place. -/
theorem lookup_withSections {name : String} (h : name ≠ "runtimes") (config tables : Toml.Table) :
    (withSections config tables).lookup name = config.lookup name := by
  simp [withSections, Assoc.lookup_set, h]

/-- A change replaces the table of its runtime. -/
theorem change_eq {config : Toml.Table} (h : TablesOnly config) (runtime : String) (c : Change) :
    change config runtime c = .ok (withSections config (Assoc.set runtime
      (.table (c.members.foldl (fun t m => Assoc.set m.1 m.2 t) (sectionOf config runtime)))
      (sections config))) := by
  rw [change, h.getD_runtimes]
  simp only [h.getD_section, setAll_table]
  rfl

/-! ## Changes one after the other -/

/-- A configuration after changes: what they gave for a setting last is there, and everything else
is as it was. -/
structure Follows (config config' : Toml.Table) (calls : List (String × Change)) : Prop where
  tables : TablesOnly config'
  others : ∀ name, name ≠ "runtimes" → Like (config.lookup name) (config'.lookup name)
  runtimes : ∀ runtime, runtime ∉ calls.map (·.1) →
    Like ((sections config).lookup runtime) ((sections config').lookup runtime)
  settings : ∀ runtime name, Like ((given calls runtime name).or (settingOf config runtime name))
    (settingOf config' runtime name)

/-- Without changes a configuration follows from itself. -/
theorem Follows.refl {config : Toml.Table} (h : TablesOnly config) : Follows config config [] where
  tables := h
  others _ _ := .refl _
  runtimes _ _ := .refl _
  settings runtime name := by
    have hnone : given [] runtime name = none := by
      unfold given
      split_ifs <;> rfl
    rw [hnone, Option.none_or]
    exact .refl _

/-- Changes one after the other set what each gives, the last one winning. -/
theorem Follows.trans {config config' config'' : Toml.Table} {calls more : List (String × Change)}
    (h : Follows config config' calls) (h' : Follows config' config'' more) :
    Follows config config'' (calls ++ more) where
  tables := h'.tables
  others name hname := (h.others name hname).trans (h'.others name hname)
  runtimes runtime hruntime := by
    rw [List.map_append, List.mem_append, not_or] at hruntime
    exact (h.runtimes runtime hruntime.1).trans (h'.runtimes runtime hruntime.2)
  settings runtime name := by
    rw [given_append, Option.or_assoc]
    exact ((Like.refl _).or (h.settings runtime name)).trans (h'.settings runtime name)

/-- One change sets what it gives and nothing else, whatever order the result is read back in. -/
theorem follows_change {config config' back : Toml.Table} {call : String × Change}
    (h : TablesOnly config) (hchange : change config call.1 call.2 = .ok config')
    (hback : Alike (.table config') (.table back)) : Follows config back [call] := by
  rw [change_eq h, Except.ok.injEq] at hchange
  subst hchange
  have htables : TablesOnly (withSections config (Assoc.set call.1 (.table
      (call.2.members.foldl (fun t m => Assoc.set m.1 m.2 t) (sectionOf config call.1)))
      (sections config))) := by
    intro v hv
    rw [withSections, Assoc.lookup_set, if_pos (beq_self_eq_true _), Option.some.injEq] at hv
    refine ⟨_, hv.symm, fun runtime w hw => ?_⟩
    rw [Assoc.lookup_set] at hw
    split_ifs at hw
    · exact ⟨_, (Option.some.inj hw).symm⟩
    · exact h.exists_table hw
  refine ⟨htables.of_alike hback, fun name hname => ?_, fun runtime hruntime => ?_,
    fun runtime name => ?_⟩
  · have hlike := Toml.alike_table_iff.1 hback name
    rwa [lookup_withSections hname] at hlike
  · have hlike := like_sections hback runtime
    rw [List.map_singleton, List.mem_singleton] at hruntime
    rwa [sections_withSections, Assoc.lookup_set, if_neg (by simpa using hruntime)] at hlike
  · have hlike := like_settingOf hback runtime name
    rw [settingOf, sectionOf, sections_withSections, Assoc.lookup_set] at hlike
    by_cases hruntime : call.1 = runtime
    · subst hruntime
      rw [if_pos (beq_self_eq_true _)] at hlike
      rw [settingOf, ← lookup_members]
      exact hlike
    · rw [if_neg (by simpa using Ne.symm hruntime)] at hlike
      rw [given_of_ne hruntime, Option.none_or]
      exact hlike

/-! ## Saves -/

/-- Saves one after the other; one that fails is the last. -/
def saveAll (file : File) : List (String × Change) → File × Except Fault Unit
  | [] => (file, .ok ())
  | (runtime, c) :: rest =>
    match save file runtime c with
    | (file, .ok ()) => saveAll file rest
    | (file, .error f) => (file, .error f)

/-- The configurations that saves write. -/
def written (file : File) : List (String × Change) → List Toml.Table
  | [] => []
  | (runtime, c) :: rest =>
    match read file >>= fun config => change config runtime c with
    | .ok config => config :: written (save file runtime c).1 rest
    | .error _ => []

/-- A configuration that can be written and read again. -/
def Recoverable (config : Toml.Table) : Prop :=
  ∃ text back, Toml.render config = .ok text ∧ read (.text text) = .ok back ∧
    Alike (.table config) (.table back)

/-- Whether a configuration is written and read again with its names in the same order. -/
def recovers (config : Toml.Table) : Bool :=
  attains (Toml.render config) fun text =>
    attains (read (.text text)) fun back => Toml.identicalMembers back config

/-- Whoever attains a configuration that is identical has found that one. -/
theorem eq_ok_of_attains_identical {x : Except Fault Toml.Table} {config : Toml.Table}
    (h : attains x (fun c => Toml.identicalMembers c config) = true) : x = .ok config := by
  cases x with
  | error f => cases h
  | ok c => exact congrArg _ (Toml.eq_of_identicalMembers h)

/-- A configuration that passes the check can be written and read again. -/
theorem recoverable_of_recovers {config : Toml.Table} (h : recovers config = true) :
    Recoverable config := by
  unfold recovers at h
  cases hrender : Toml.render config with
  | error f =>
      rw [hrender] at h
      cases h
  | ok text =>
      rw [hrender, attains_ok] at h
      exact ⟨text, config, hrender, eq_ok_of_attains_identical h, .refl _⟩

/-- Saves end well and follow each other if what they write can be read again. -/
theorem exists_saveAll {file : File} {config : Toml.Table} (hread : read file = .ok config)
    (hconfig : TablesOnly config) {calls : List (String × Change)}
    (hwritten : ∀ c ∈ written file calls, Recoverable c) :
    ∃ file' config', saveAll file calls = (file', .ok ()) ∧ read file' = .ok config' ∧
      Follows config config' calls := by
  induction calls generalizing file config with
  | nil => exact ⟨file, config, rfl, hread, .refl hconfig⟩
  | cons call rest ih =>
      obtain ⟨runtime, c⟩ := call
      have hchange := change_eq hconfig runtime c
      generalize withSections config _ = next at hchange
      have hsaved : (read file >>= fun config => change config runtime c) = .ok next := by
        rw [hread]
        exact hchange
      rw [written, hsaved] at hwritten
      obtain ⟨text, back, hrender, hback, halike⟩ := hwritten next List.mem_cons_self
      have hsave : save file runtime c = (.text text, .ok ()) := by
        simp only [save, hsaved, hrender]
      have hfirst : Follows config back [(runtime, c)] := follows_change hconfig hchange halike
      obtain ⟨file', config', hrest, hread', hfollows⟩ := ih hback hfirst.tables
        fun c' hc' => hwritten c' (List.mem_cons_of_mem _ (by rwa [hsave]))
      refine ⟨file', config', ?_, hread', hfirst.trans hfollows⟩
      rw [saveAll, hsave]
      exact hrest

/-! ## Loading -/

/-- A setting that is loaded: what was given for it last, unless that is empty; or what was there
before, unless that does not hold. -/
structure Kept (last : Option String) (original : Option Value) (loaded : Option Json) : Prop where
  given : ∀ s, last = some s → loaded = if s = "" then none else some (.str s)
  original : last = none → ∃ v, Like original v ∧ loaded = (v.map Value.toJson).filter Json.holds

/-- What a value that follows the last one is loaded as. -/
theorem kept_of_like {last : Option String} {original now : Option Value}
    (h : Like ((last.map .text).or original) now) :
    Kept last original ((now.map Value.toJson).filter Json.holds) := by
  constructor
  · rintro s rfl
    cases h with
    | some h =>
        rw [h.eq_text]
        by_cases hempty : s = "" <;>
          simp [Option.filter_some, Value.toJson, Json.holds, hempty]
  · rintro rfl
    exact ⟨now, by simpa using h, rfl⟩

/-- Like values hold alike. -/
theorem Like.map_holds {v w : Option Value} (h : Like v w) :
    v.map Value.holds = w.map Value.holds := by
  cases h with
  | none => rfl
  | some h => exact congrArg some h.holds_eq

/-- A switch is on if it was given so last, and as before if it was not given. -/
theorem switch_of_like {last : Option Bool} {original now : Option Value}
    (h : Like ((last.map .truth).or original) now) :
    (now.map Value.holds).getD false = last.getD ((original.map Value.holds).getD false) := by
  rw [← h.map_holds]
  cases last <;> rfl

/-- The table that settings are loaded from is that of the runtime. -/
theorem runtimeTable_eq {config : Toml.Table} (h : TablesOnly config) (runtime : String) :
    runtimeTable config runtime = .table (sectionOf config runtime) := by
  rw [← h.getD_section, runtimeTable, sections]
  cases config.lookup "runtimes" with
  | none => rfl
  | some v => cases v <;> rfl

/-- The settings of a runtime in a configuration whose runtimes are tables. -/
theorem runtimeSettings_eq {file : File} {config : Toml.Table} (hread : read file = .ok config)
    (h : TablesOnly config) (env : Variables) (runtime : String) :
    runtimeSettings file env runtime = .ok {
      path := (((env.lookup (pathVariable runtime)).filter (· != "")).map Json.str).or
        (((settingOf config runtime "path").map Value.toJson).filter Json.holds)
      disabled := ((env.lookup (disableVariable runtime)).map fun s =>
        Text.lower (Text.strip s) == "true").getD
          (((settingOf config runtime "disabled").map Value.holds).getD false)
      analyzer := ((settingOf config runtime "analyzer").map Value.toJson).filter Json.holds } := by
  simp only [runtimeSettings, hread, bind, Except.bind, held, runtimeTable_eq h, Value.member]
  rfl

/-- The settings of a runtime that are loaded after changes.  Environment variables win over the
path, unless they are empty, and over the switch. -/
structure Loaded (config : Toml.Table) (calls : List (String × Change)) (env : Variables)
    (runtime : String) (settings : RuntimeSettings) : Prop where
  path_env : ∀ p, env.lookup (pathVariable runtime) = some p → p ≠ "" →
    settings.path = some (.str p)
  path : (∀ p, env.lookup (pathVariable runtime) = some p → p = "") →
    Kept (lastGiven (·.path) runtime calls) (settingOf config runtime "path") settings.path
  disabled_env : ∀ s, env.lookup (disableVariable runtime) = some s →
    (settings.disabled = true ↔ Text.lower (Text.strip s) = "true")
  disabled : env.lookup (disableVariable runtime) = none →
    settings.disabled = (lastGiven (·.disabled) runtime calls).getD
      (((settingOf config runtime "disabled").map Value.holds).getD false)
  analyzer : Kept (lastGiven (·.analyzer) runtime calls) (settingOf config runtime "analyzer")
    settings.analyzer

/-- Loading settings from a configuration that follows from changes does not fail. -/
theorem Follows.exists_loaded {config config' : Toml.Table} {calls : List (String × Change)}
    (h : Follows config config' calls) {file : File} (hread : read file = .ok config')
    (env : Variables) (runtime : String) :
    ∃ settings, runtimeSettings file env runtime = .ok settings ∧
      Loaded config calls env runtime settings := by
  refine ⟨_, runtimeSettings_eq hread h.tables env runtime, ?_, ?_, ?_, ?_, ?_⟩
  · intro p hp hne
    simp [hp, Option.filter_some, hne]
  · intro hunset
    have hnone : (env.lookup (pathVariable runtime)).filter (· != "") = none := by
      cases hp : env.lookup (pathVariable runtime) with
      | none => rfl
      | some p => simp [Option.filter_some, hunset p hp]
    rw [hnone, Option.map_none, Option.none_or]
    exact kept_of_like (h.settings runtime "path")
  · intro s hs
    simp [hs]
  · intro hunset
    rw [hunset, Option.map_none, Option.getD_none]
    exact switch_of_like (h.settings runtime "disabled")
  · exact kept_of_like (h.settings runtime "analyzer")

/-- After saves, what was given last for the path, the switch and the analyzer of a runtime is what
is loaded, and everything that was not given is as before. -/
theorem saved_settings_loaded {file : File} {config : Toml.Table} (hread : read file = .ok config)
    (hconfig : TablesOnly config) {calls : List (String × Change)}
    (hwritten : ∀ c ∈ written file calls, Recoverable c) :
    ∃ file' config', saveAll file calls = (file', .ok ()) ∧ read file' = .ok config' ∧
      (∀ name, name ≠ "runtimes" → Like (config.lookup name) (config'.lookup name)) ∧
      (∀ runtime, runtime ∉ calls.map (·.1) →
        Like ((sections config).lookup runtime) ((sections config').lookup runtime)) ∧
      (∀ runtime name, name ∉ ["path", "disabled", "analyzer"] →
        Like (settingOf config runtime name) (settingOf config' runtime name)) ∧
      (∀ runtime name, Like ((given calls runtime name).or (settingOf config runtime name))
        (settingOf config' runtime name)) ∧
      ∀ env runtime, ∃ settings, runtimeSettings file' env runtime = .ok settings ∧
        Loaded config calls env runtime settings := by
  obtain ⟨file', config', hsaved, hread', hfollows⟩ := exists_saveAll hread hconfig hwritten
  refine ⟨file', config', hsaved, hread', hfollows.others, hfollows.runtimes, ?_,
    hfollows.settings, hfollows.exists_loaded hread'⟩
  intro runtime name hname
  have hlike := hfollows.settings runtime name
  rwa [given_of_notMem hname, Option.none_or] at hlike

/-- Two saves for one runtime; the second one empties its path. -/
def tunings : List (String × Change) :=
  [("go", { path := some "x" }), ("go", { path := some "", disabled := some true })]

/-- The configuration with a table for that runtime. -/
def tuned (settings : Toml.Table) : Toml.Table :=
  [("runtimes", .table [("go", .table settings)])]

/-- An empty configuration has tables only. -/
theorem tablesOnly_nil : TablesOnly [] := by
  rintro _ ⟨⟩

/-- What the two saves write. -/
theorem written_tunings : written .absent tunings =
    [tuned [("path", .text "x")], tuned [("path", .text ""), ("disabled", .truth true)]] := by
  have hrender : Toml.render (tuned [("path", .text "x")]) =
      .ok "[runtimes.go]\npath = \"x\"\n" := by
    decide +kernel
  have hread : read (.text "[runtimes.go]\npath = \"x\"\n") = .ok (tuned [("path", .text "x")]) :=
    eq_ok_of_attains_identical (by decide +kernel)
  have hfirst : (read .absent >>= fun config => change config "go" { path := some "x" }) =
      .ok (tuned [("path", .text "x")]) := rfl
  have hsave : save .absent "go" { path := some "x" } =
      (.text "[runtimes.go]\npath = \"x\"\n", .ok ()) := by
    simp only [save, hfirst, hrender]
  rw [tunings, written, hfirst, hsave]
  simp only [written, hread, bind, Except.bind]
  rfl

/-- The path that was emptied is gone, and the switch is set. -/
theorem saved_settings_loaded_tunings :
    read .absent = .ok [] ∧ TablesOnly [] ∧ (∀ c ∈ written .absent tunings, Recoverable c) ∧
    ∃ file' go, saveAll .absent tunings = (file', .ok ()) ∧
      runtimeSettings file' [] "go" = .ok go ∧ go.path = none ∧ go.disabled = true ∧
      go.analyzer = none := by
  have hwritten : ∀ c ∈ written .absent tunings, Recoverable c := by
    rw [written_tunings]
    simp only [List.forall_mem_cons, List.not_mem_nil, false_implies, implies_true, and_true]
    exact ⟨recoverable_of_recovers (by decide +kernel), recoverable_of_recovers (by decide +kernel)⟩
  obtain ⟨file', config', hsaved, _, _, _, _, _, hloaded⟩ :=
    saved_settings_loaded rfl tablesOnly_nil hwritten
  obtain ⟨go, hgo, hsettings⟩ := hloaded [] "go"
  refine ⟨rfl, tablesOnly_nil, hwritten, file', go, hsaved, hgo,
    (hsettings.path (by rintro _ ⟨⟩)).given "" (by decide), hsettings.disabled rfl, ?_⟩
  obtain ⟨v, hlike, hanalyzer⟩ := hsettings.analyzer.original (by decide)
  cases hlike
  exact hanalyzer

end Config
end CrossAudit
