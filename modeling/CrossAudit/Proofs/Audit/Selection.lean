import CrossAudit.Audit.Selection
import CrossAudit.Proofs.Launcher.Refusal

/-!
# Which languages are selected

Selecting languages may ask the launcher for its runtimes, which are then detected once.  Nothing
that later questions depend on changes meanwhile, so whether a language can be analyzed may be
asked of the launcher as it was at the beginning.

Main results:

- Theorem `fails_select_iff`: a selection fails exactly if some language asks for the runtimes and
  they cannot be told.
- Theorem `mem_languages_select_iff`: a selection takes exactly the languages that the launcher can
  analyze.
-/

namespace CrossAudit
namespace Launcher

variable {l l' : Launcher} {language : String}

/-- A launcher after some questions: as before, or with its runtimes detected. -/
def Later (l l' : Launcher) : Prop :=
  l' = l ∨ ∃ known, l.runtimes = (.ok known, l')

/-- A language that is selected, or not, only after the runtimes were told: its runtime is external,
or it has no adapter. -/
def Asks (l : Launcher) (language : String) : Prop :=
  isNative (l.runtimeFor language) = false ∨ l.registry.contains language = false

/-- Detection changes neither the adapters nor the specifications, and is done once. -/
theorem runtimes_eq_ok {known : List (String × RuntimeInfo)}
    (h : l.runtimes = (.ok known, l')) :
    l'.runtimes = (.ok known, l') ∧ l'.registry = l.registry ∧ l'.specs = l.specs := by
  unfold runtimes at h
  cases hdetected : l.detected with
  | some known' =>
      rw [hdetected] at h
      cases h
      exact ⟨by simp [runtimes, hdetected], rfl, rfl⟩
  | none =>
      simp only [hdetected, detect] at h
      rcases hall : l.detectAll (l.specs.map (·.2)) l.nativeRuntimes with ⟨events, _ | known'⟩
      · rw [hall] at h
        cases h
      · rw [hall] at h
        cases h
        exact ⟨rfl, rfl, rfl⟩

theorem fails_ask_iff {α : Type} (f : List (String × RuntimeInfo) → α) :
    Fails (l.ask f).1 ↔ Fails l.runtimes.1 := by
  simp only [ask, fails_map_iff]

theorem later_of_ask {α : Type} {f : List (String × RuntimeInfo) → α} {a : α}
    (h : l.ask f = (.ok a, l')) : Later l l' := by
  rcases hruntimes : l.runtimes with ⟨_ | known, l₁⟩
  · simp [ask, hruntimes, Except.map] at h
  · have hl : l₁ = l' := by
      simp only [ask, hruntimes, Prod.mk.injEq] at h
      exact h.2
    exact Or.inr ⟨known, hl ▸ hruntimes⟩

namespace Later

theorem registry_eq (h : Later l l') : l'.registry = l.registry := by
  rcases h with rfl | ⟨known, h⟩
  · rfl
  · exact (runtimes_eq_ok h).2.1

theorem specs_eq (h : Later l l') : l'.specs = l.specs := by
  rcases h with rfl | ⟨known, h⟩
  · rfl
  · exact (runtimes_eq_ok h).2.2

/-- The runtimes are the same later. -/
theorem runtimes_fst_eq (h : Later l l') : l'.runtimes.1 = l.runtimes.1 := by
  rcases h with rfl | ⟨known, h⟩
  · rfl
  · rw [(runtimes_eq_ok h).1, h]

theorem runtimeFor_eq (h : Later l l') (language : String) :
    l'.runtimeFor language = l.runtimeFor language := by
  simp only [runtimeFor, h.specs_eq]

theorem asks_iff (h : Later l l') (language : String) : l'.Asks language ↔ l.Asks language := by
  simp only [Asks, h.runtimeFor_eq, h.registry_eq]

/-- Whether a language can be analyzed is the same later. -/
theorem canAnalyze_fst_eq (h : Later l l') (language : String) :
    (l'.canAnalyze language).1 = (l.canAnalyze language).1 := by
  simp only [canAnalyze, hasRuntime, ask, h.runtimeFor_eq, h.registry_eq, h.runtimes_fst_eq]
  split <;> rfl

end Later

theorem later_of_canAnalyze {b : Bool} (h : l.canAnalyze language = (.ok b, l')) : Later l l' := by
  simp only [canAnalyze] at h
  split at h
  · exact Or.inl (Prod.mk.inj h).2.symm
  · exact later_of_ask h

/-- A question about a language that is answered: it needs no runtimes if the answer is yes, it does
if the answer is no, or the runtimes are told. -/
theorem asks_or_not_fails {b : Bool} (h : (l.canAnalyze language).1 = .ok b) :
    (b = true ∧ ¬ l.Asks language) ∨ (b = false ∧ l.Asks language) ∨ ¬ Fails l.runtimes.1 := by
  simp only [canAnalyze] at h
  split at h
  · rename_i hnative
    cases b with
    | true => exact Or.inl ⟨rfl, by simp_all [Asks]⟩
    | false => exact Or.inr (Or.inl ⟨rfl, by simp_all [Asks]⟩)
  · refine Or.inr (Or.inr ?_)
    rw [← fails_ask_iff fun known => ((known.lookup (l.runtimeFor language)).map
      RuntimeInfo.usable).getD false]
    simp only [hasRuntime] at h
    rw [h]
    exact not_fails_ok b

theorem fails_canAnalyze_iff :
    Fails (l.canAnalyze language).1 ↔
      isNative (l.runtimeFor language) = false ∧ Fails l.runtimes.1 := by
  simp only [canAnalyze]
  split
  · rename_i hnative
    simp [hnative]
  · rename_i hnative
    simp [hnative, hasRuntime, fails_ask_iff]

end Launcher

namespace Audit

open Launcher

/-- A selection fails exactly if some language asks for the runtimes and they cannot be told. -/
theorem fails_select_iff (languages : List String) (l : Launcher) :
    Fails (select languages l).1 ↔
      (∃ language ∈ languages, l.Asks language) ∧ Fails l.runtimes.1 := by
  induction languages generalizing l with
  | nil => simp [select]
  | cons language rest ih =>
      have hcons : (∃ x ∈ language :: rest, l.Asks x) ↔ l.Asks language ∨ ∃ x ∈ rest, l.Asks x := by
        simp
      rw [hcons]
      unfold select
      rcases hcan : l.canAnalyze language with ⟨f | b, l₁⟩
      · have hfails : Fails (l.canAnalyze language).1 := ⟨f, by rw [hcan]⟩
        rw [fails_canAnalyze_iff] at hfails
        simp only [fails_error, true_iff]
        exact ⟨Or.inl (Or.inl hfails.1), hfails.2⟩
      · have hlater : Later l l₁ := later_of_canAnalyze hcan
        have hcases := asks_or_not_fails (l := l) (b := b) (by rw [hcan])
        cases b with
        | true =>
            have hrest := ih l₁
            simp only [hlater.asks_iff, hlater.runtimes_fst_eq] at hrest
            simp only [fails_map_iff, hrest]
            rcases hcases with ⟨_, hasks⟩ | ⟨hfalse, _⟩ | htold
            · simp [hasks]
            · cases hfalse
            · simp [htold]
        | false =>
            have hasks : l.Asks language ∨ ¬ Fails l.runtimes.1 := by
              rcases hcases with ⟨hfalse, _⟩ | ⟨_, hasks⟩ | htold
              · cases hfalse
              · exact Or.inl hasks
              · exact Or.inr htold
            have hreason : Fails (l₁.unavailableReason language).1 ↔ Fails l.runtimes.1 := by
              rw [← hlater.runtimes_fst_eq]
              exact fails_ask_iff _
            rcases htell : l₁.unavailableReason language with ⟨f | reason, l₂⟩
            · rw [htell] at hreason
              simp only [fails_error, true_iff] at hreason
              simp [htell, hreason, hasks.resolve_right (not_not.2 hreason)]
            · rw [htell] at hreason
              simp only [not_fails_ok, false_iff] at hreason
              have hlater₂ : Later l₁ l₂ := later_of_ask htell
              simp [htell, ih l₂, hlater₂.runtimes_fst_eq, hlater.runtimes_fst_eq, hreason]

/-- A selection takes exactly the languages that the launcher can analyze. -/
theorem mem_languages_select_iff {languages : List String} {l : Launcher} {s : Selection}
    (h : (select languages l).1 = .ok s) (x : String) :
    x ∈ s.languages ↔ x ∈ languages ∧ (l.canAnalyze x).1 = .ok true := by
  induction languages generalizing l s with
  | nil =>
      simp only [select, Except.ok.injEq] at h
      simp [← h]
  | cons language rest ih =>
      unfold select at h
      rcases hcan : l.canAnalyze language with ⟨f | b, l₁⟩
      · simp [hcan] at h
      · have hlater : Later l l₁ := later_of_canAnalyze hcan
        cases b with
        | true =>
            simp only [hcan, map_eq_ok_iff] at h
            rcases h with ⟨s', hs', rfl⟩
            simp only [Selection.take, List.mem_cons, ih hs', hlater.canAnalyze_fst_eq]
            constructor
            · rintro (rfl | ⟨hx, hcan'⟩)
              · exact ⟨Or.inl rfl, by rw [hcan]⟩
              · exact ⟨Or.inr hx, hcan'⟩
            · rintro ⟨rfl | hx, hcan'⟩
              · exact Or.inl rfl
              · exact Or.inr ⟨hx, hcan'⟩
        | false =>
            rcases htell : l₁.unavailableReason language with ⟨f | reason, l₂⟩
            · simp [hcan, htell] at h
            · have hlater₂ : Later l₁ l₂ := later_of_ask htell
              simp only [hcan, htell, map_eq_ok_iff] at h
              rcases h with ⟨s', hs', rfl⟩
              simp only [Selection.refuse, List.mem_cons, ih hs', hlater₂.canAnalyze_fst_eq,
                hlater.canAnalyze_fst_eq]
              constructor
              · rintro ⟨hx, hcan'⟩
                exact ⟨Or.inr hx, hcan'⟩
              · rintro ⟨rfl | hx, hcan'⟩
                · simp [hcan] at hcan'
                · exact ⟨hx, hcan'⟩

end Audit
end CrossAudit
