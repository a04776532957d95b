import CrossAudit.Proofs.Assoc
import CrossAudit.Proofs.Audit.Selection
import CrossAudit.Proofs.Launcher.Readiness

/-!
# Selection and launching agree

Every language that was discovered and is wanted is either selected or becomes an error, once, and a
selected language finds its runtime when it is launched.  There is one exception: if a wanted
language asks for the runtimes and one of them is misconfigured, then the selection fails as a
whole.

Main results:

- Theorem `grouped_groupByLanguage`: every file of a known language is in exactly one group.
- Theorem `mem_candidates_iff`: the candidates are the languages that were discovered and are
  wanted.
- Theorem `perm_select`: a selection sorts the candidates into languages and errors.
- Theorem `select_agrees`: when a selection fails, and what it guarantees otherwise.
-/

namespace CrossAudit

namespace Discovery

variable {r : Registry} {files : List String}

/-! ## Groups -/

/-- Groups of files by language: no language has two groups, a group holds the files of its language
in their order, and every file of a known language is in exactly one of them. -/
structure Grouped (r : Registry) (files : List String) (groups : List (String × List String)) :
    Prop where
  nodup_languages : (groups.map (·.1)).Nodup
  files_eq : ∀ g ∈ groups, g.2 = files.filter fun f => languageOf? r f == some g.1
  existsUnique : ∀ file ∈ files, (languageOf? r file).isSome = true →
    ∃! g, g ∈ groups ∧ file ∈ g.2

/-- Files are grouped under each language that one of them is in, once. -/
theorem languages_groupByLanguage (r : Registry) (files : List String) :
    (groupByLanguage r files).map (·.1) = (files.filterMap (languageOf? r)).eraseDups := by
  rw [groupByLanguage, Assoc.group_eq]
  simp [Function.comp_def]

/-- A group is made of the files in its language, in order. -/
theorem mem_groupByLanguage_iff (r : Registry) (files : List String)
    (g : String × List String) :
    g ∈ groupByLanguage r files ↔ g.1 ∈ files.filterMap (languageOf? r) ∧
      g.2 = files.filter fun f => languageOf? r f == some g.1 := by
  rw [groupByLanguage, Assoc.group_eq, List.mem_map]
  simp only [List.mem_eraseDups]
  constructor
  · rintro ⟨language, hlanguage, rfl⟩
    exact ⟨hlanguage, rfl⟩
  · rintro ⟨hlanguage, hfiles⟩
    exact ⟨g.1, hlanguage, Prod.ext rfl hfiles.symm⟩

/-- The groups that are made are those that the files call for. -/
theorem grouped_groupByLanguage (r : Registry) (files : List String) :
    Grouped r files (groupByLanguage r files) := by
  refine ⟨Assoc.nodup_keys_group _ files,
    fun g hg => ((mem_groupByLanguage_iff r files g).1 hg).2, ?_⟩
  intro file hfile hknown
  rcases Option.isSome_iff_exists.1 hknown with ⟨language, hlanguage⟩
  refine ⟨(language, files.filter fun f => languageOf? r f == some language), ⟨?_, ?_⟩, ?_⟩
  · rw [mem_groupByLanguage_iff]
    exact ⟨List.mem_filterMap.2 ⟨file, hfile, hlanguage⟩, rfl⟩
  · simp [hfile, hlanguage]
  · rintro ⟨language', group⟩ ⟨hmem, hin⟩
    -- A group that holds the file is the one of its language.
    have hgroup : group = files.filter fun f => languageOf? r f == some language' :=
      ((mem_groupByLanguage_iff r files _).1 hmem).2
    have hsame : language' = language := by
      rw [hgroup, List.mem_filter, hlanguage] at hin
      exact (Option.some.inj (beq_iff_eq.1 hin.2)).symm
    rw [hgroup, hsame]

/-- The names of languages are written in lower case. -/
theorem lower_of_languageOf? {file language : String} (h : languageOf? r file = some language) :
    Text.lower language = language := by
  unfold languageOf? at h
  split at h
  · rename_i a _
    cases h
    cases a <;> decide +kernel
  · have hdistinct : (Language.extensions.map (·.1)).Nodup := by decide
    have htable : ∀ entry ∈ Language.extensions, Text.lower entry.2 = entry.2 := by decide +kernel
    exact htable (_, language) ((Assoc.lookup_eq_some_iff_mem hdistinct _ _).1 h)

end Discovery

namespace Launcher

variable {l l' : Launcher} {language : String}

/-! ## Readiness after questions -/

/-- A launcher after some questions remembers what it was. -/
theorem Later.remembers (h : Later l l') : Remembers l l' := by
  refine ⟨h.registry_eq, h.specs_eq, ?_⟩
  intro known hknown
  rcases h with rfl | ⟨known', h⟩
  · exact hknown
  · -- Runtimes that are known are not detected again.
    simp only [runtimes, hknown, Prod.mk.injEq] at h
    rw [← h.2, hknown]

/-- Runtimes that are told are known from then on. -/
theorem detected_of_runtimes {known : List (String × RuntimeInfo)}
    (h : l.runtimes = (.ok known, l')) : l'.detected = some known := by
  unfold runtimes at h
  cases hdetected : l.detected with
  | some known' =>
      rw [hdetected] at h
      cases h
      exact hdetected
  | none =>
      simp only [hdetected, detect] at h
      split at h
      · cases h
        rfl
      · cases h

/-- A language that can be analyzed is ready for its launch. -/
theorem ready_of_canAnalyze (h : l.canAnalyze language = (.ok true, l')) :
    l'.Ready language := by
  unfold Ready
  rw [(later_of_canAnalyze h).runtimeFor_eq]
  simp only [canAnalyze] at h
  split at h
  · exact Or.inl ‹_›
  · rcases hruntimes : l.runtimes with ⟨_ | known, l₁⟩
    · simp [hasRuntime, ask, hruntimes, Except.map] at h
    · simp only [hasRuntime, ask, hruntimes, Except.map, Prod.mk.injEq, Except.ok.injEq] at h
      rcases h with ⟨husable, rfl⟩
      rcases hlookup : known.lookup (l.runtimeFor language) with _ | i
      · simp [hlookup] at husable
      · exact Or.inr ⟨known, i, detected_of_runtimes hruntimes, hlookup,
          by simpa [hlookup] using husable⟩

end Launcher

namespace Audit

open Launcher

variable {requested files : List String} {language : String}

/-! ## Candidates -/

/-- A language that was discovered, and that is named if any language is, in upper or lower case. -/
def Wanted (r : Registry) (requested files : List String) (language : String) : Prop :=
  (∃ file ∈ files, Discovery.languageOf? r file = some language) ∧
    (requested = [] ∨ ∃ name ∈ requested, Text.lower name = Text.lower language)

/-- No language is a candidate twice. -/
theorem nodup_candidates (r : Registry) (requested files : List String) :
    (candidates requested (Discovery.groupByLanguage r files)).Nodup := by
  have hlanguages := (Discovery.grouped_groupByLanguage r files).nodup_languages
  exact ((List.mergeSort_perm _ _).nodup_iff.2 hlanguages).filter _

/-- The candidates are the languages that are wanted. -/
theorem mem_candidates_iff (r : Registry) (requested files : List String) (language : String) :
    language ∈ candidates requested (Discovery.groupByLanguage r files) ↔
      Wanted r requested files language := by
  unfold candidates sorted Wanted
  rw [List.mem_filter, (List.mergeSort_perm _ _).mem_iff, Discovery.languages_groupByLanguage,
    List.mem_eraseDups, List.mem_filterMap]
  refine and_congr_right ?_
  rintro ⟨file, _, hlanguage⟩
  rw [Discovery.lower_of_languageOf? hlanguage]
  simp [wants]

/-! ## What becomes of the candidates -/

/-- What a selection speaks of: the languages that it takes, and those of its errors. -/
def Selection.entries (s : Selection) : List (Option String) :=
  s.languages.map some ++ s.errors.map (·.language)

/-- A language that is refused is one more entry. -/
theorem perm_entries_refuse (s : Selection) (language reason : String) :
    (s.refuse language reason).entries.Perm (some language :: s.entries) :=
  List.perm_middle

/-- What becomes of the first candidate: it is taken and ready, or refused. -/
theorem select_cons_eq_ok {rest : List String} {l l' : Launcher} {s : Selection}
    (h : select (language :: rest) l = (.ok s, l')) :
    ∃ l₁ s', Remembers l l₁ ∧ select rest l₁ = (.ok s', l') ∧
      (l₁.Ready language ∧ s = s'.take language ∨ ∃ reason, s = s'.refuse language reason) := by
  unfold select at h
  rcases hcan : l.canAnalyze language with ⟨f | b, l₁⟩
  · simp [hcan] at h
  · have hlater := (later_of_canAnalyze hcan).remembers
    cases b with
    | true =>
        simp only [hcan, Prod.mk.injEq, map_eq_ok_iff] at h
        rcases h with ⟨⟨s', hs', rfl⟩, hl'⟩
        exact ⟨l₁, s', hlater, Prod.ext hs' hl', Or.inl ⟨ready_of_canAnalyze hcan, rfl⟩⟩
    | false =>
        rcases htell : l₁.unavailableReason language with ⟨f | reason, l₂⟩
        · simp [hcan, htell] at h
        · simp only [hcan, htell, Prod.mk.injEq, map_eq_ok_iff] at h
          rcases h with ⟨⟨s', hs', rfl⟩, hl'⟩
          exact ⟨l₂, s', hlater.trans (later_of_ask htell).remembers,
            Prod.ext hs' hl', Or.inr ⟨reason, rfl⟩⟩

/-- A selection sorts the candidates into languages and errors. -/
theorem perm_select {languages : List String} {l l' : Launcher} {s : Selection}
    (h : select languages l = (.ok s, l')) : s.entries.Perm (languages.map some) := by
  induction languages generalizing l s with
  | nil =>
      cases h
      exact List.Perm.refl _
  | cons language rest ih =>
      rcases select_cons_eq_ok h with ⟨l₁, s', _, hrest, ⟨_, rfl⟩ | ⟨reason, rfl⟩⟩
      · exact (ih hrest).cons (some language)
      · exact (perm_entries_refuse s' language reason).trans ((ih hrest).cons (some language))

/-- The errors of a selection tell of runtimes that are not there. -/
theorem kind_of_mem_select {languages : List String} {l l' : Launcher} {s : Selection}
    (h : select languages l = (.ok s, l')) : ∀ e ∈ s.errors, e.kind = "runtime-unavailable" := by
  induction languages generalizing l s with
  | nil =>
      cases h
      simp
  | cons language rest ih =>
      rcases select_cons_eq_ok h with ⟨l₁, s', _, hrest, ⟨_, rfl⟩ | ⟨reason, rfl⟩⟩
      · exact fun e he => ih hrest e he
      · exact List.forall_mem_cons.2 ⟨rfl, ih hrest⟩

/-- The languages that are selected are ready afterwards. -/
theorem ready_of_mem_select {languages : List String} {l l' : Launcher} {s : Selection}
    (h : select languages l = (.ok s, l')) :
    Remembers l l' ∧ ∀ language ∈ s.languages, l'.Ready language := by
  induction languages generalizing l s with
  | nil =>
      cases h
      exact ⟨.refl _, by simp⟩
  | cons language rest ih =>
      rcases select_cons_eq_ok h with ⟨l₁, s', hl₁, hrest, hfirst⟩
      rcases ih hrest with ⟨hl', hready⟩
      refine ⟨hl₁.trans hl', ?_⟩
      rcases hfirst with ⟨hfirst, rfl⟩ | ⟨reason, rfl⟩
      · exact List.forall_mem_cons.2 ⟨hfirst.of_remembers hl', hready⟩
      · exact hready

/-! ## Agreement -/

/-- What a selection guarantees: every wanted language occurs once, as a language that is taken or
as that of an error about its runtime, and nothing else occurs; and whenever a language that is
taken is launched, it finds its runtime. -/
structure Agrees (r : Registry) (requested files : List String) (s : Selection) (l : Launcher) :
    Prop where
  nodup_entries : s.entries.Nodup
  mem_entries_iff : ∀ entry, entry ∈ s.entries ↔
    ∃ language, entry = some language ∧ Wanted r requested files language
  unavailable : ∀ e ∈ s.errors, e.kind = "runtime-unavailable"
  launched : ∀ language ∈ s.languages, ∀ l', Launched l l' → ∀ files options signal,
    ∀ e ∈ (l'.launch (l'.runtimeFor language) language files options signal).result.errors,
      e.kind ≠ "runtime-unavailable"

/-- A selection that succeeds agrees with the registry, the request and the files. -/
theorem agrees_of_select {l l' : Launcher} {s : Selection}
    (h : select (candidates requested (Discovery.groupByLanguage l.registry files)) l =
      (.ok s, l')) : Agrees l.registry requested files s l' := by
  have hperm := perm_select h
  refine ⟨?_, ?_, kind_of_mem_select h, ?_⟩
  · exact hperm.nodup_iff.2 ((nodup_candidates _ _ _).map (Option.some_injective _))
  · intro entry
    rw [hperm.mem_iff, List.mem_map]
    simp only [mem_candidates_iff]
    constructor
    · rintro ⟨language, hwanted, rfl⟩
      exact ⟨language, rfl, hwanted⟩
    · rintro ⟨language, rfl, hwanted⟩
      exact ⟨language, hwanted, rfl⟩
  · intro language hlanguage l'' hlaunched
    have hready := (ready_of_mem_select h).2 language hlanguage
    exact (hready.of_remembers hlaunched.remembers).kind_ne_unavailable

/-- A launcher for two languages, one of which needs a runtime that is not there. -/
def halfEquipped : Launcher where
  specs := specTable (RuntimeSpec.standard "")
  settings := .given []

/-- Files of two languages, and one of none. -/
def mixedFiles : List String :=
  ["b.go", "a.py", "notes.txt", "c.py"]

/-- The path of the runtime lies in the home directory of a user who is not known. -/
def stranded : Launcher where
  specs := specTable (RuntimeSpec.standard "")
  settings := .given [("go", { path := some (.str "~nosuchuser/go") })]

end Audit
end CrossAudit
