import CrossAudit.Proofs.Launcher.Course
import CrossAudit.Proofs.Task.Complaints

/-!
# Launches that find their runtime

A language is ready if its runtime is native, or is known and can be used.  Readiness survives any
launches, and the launch of a ready language may fail in many ways, but not for want of a runtime.

Main results:

- Theorem `Launcher.isBooked_of_runExternal`: once a runtime is found to be usable, whatever goes
  wrong is a failure of the analysis.
- Theorem `Launcher.Launched.remembers`: launches forget neither the adapters nor the runtimes.
- Theorem `Launcher.Ready.kind_ne_unavailable`: the launch of a ready language does not report that
  its runtime is not available.
-/

namespace CrossAudit

namespace Launcher

/-! ## Failures on a usable runtime -/

variable {l l' : Launcher} {language : String}

theorem isBooked_of_command {i : RuntimeInfo} {spec : RuntimeSpec} {e : LaunchError}
    (h : l.command i spec = .error e) : e.isBooked = true := by
  unfold command at h
  rcases bind_eq_error_iff.1 h with h | ⟨_, _, h⟩
  · rcases exists_of_mapM_eq_error h with ⟨arg, _, harg⟩
    unfold argument at harg
    split at harg
    · cases harg
    · split at harg
      · cases harg
        rfl
      · cases harg
        rfl
      · split at harg
        · cases harg
          rfl
        · cases harg
  · cases h

theorem isBooked_of_hear {b : Behaviour} {runtime request : String} {timeout : Binary64}
    {signal : Signal} {e : LaunchError}
    (h : (l.hear b runtime language request timeout signal).1 = .error e) : e.isBooked = true := by
  have hconversed := (conversed_converse l b runtime request timeout signal).2
  unfold hear at h
  generalize l.converse b runtime request timeout signal = spoken at hconversed h
  rcases spoken with ⟨e?, signal', l₁⟩
  cases hconversed with
  | late => cases h; rfl
  | unkillable => cases h; rfl
  | brokenOff => cases h; rfl
  | printed =>
      dsimp only at h
      split at h
      · cases h
      · cases hread : readOutput runtime language b with
        | error e' =>
            rw [hread] at h
            cases h
            exact isBooked_of_readOutput hread
        | ok r =>
            rw [hread] at h
            cases h

/-- Once a runtime is found to be usable, whatever goes wrong is a failure of the analysis. -/
theorem isBooked_of_runExternal {i : RuntimeInfo} {spec : RuntimeSpec} {files : List String}
    {options : List (String × Json)} {signal : Signal} {e : LaunchError}
    (h : (l.runExternal i spec language files options signal).1 = .error e) :
    e.isBooked = true := by
  unfold runExternal at h
  cases hcommand : l.command i spec with
  | error e' =>
      rw [hcommand] at h
      cases h
      exact isBooked_of_command hcommand
  | ok command =>
      simp only [hcommand] at h
      split at h
      · cases h
        rfl
      · split at h
        · cases h
        · generalize l.start command = started at h
          rcases started with ⟨e' | f | b, l₁⟩
          · cases h
            rfl
          · cases h
            rfl
          · exact isBooked_of_hear h

/-! ## Readiness -/

/-- A language whose runtime is native, or is known and can be used. -/
def Ready (l : Launcher) (language : String) : Prop :=
  isNative (l.runtimeFor language) = true ∨ ∃ known i, l.detected = some known ∧
    known.lookup (l.runtimeFor language) = some i ∧ i.usable = true

theorem Remembers.runtimeFor_eq (h : Remembers l l') (language : String) :
    l'.runtimeFor language = l.runtimeFor language := by
  rw [runtimeFor, runtimeFor, h.specs_eq]

theorem Ready.of_remembers (h : l.Ready language) (hl : Remembers l l') : l'.Ready language := by
  unfold Ready
  rw [hl.runtimeFor_eq]
  rcases h with hnative | ⟨known, i, hknown, hi, husable⟩
  · exact Or.inl hnative
  · exact Or.inr ⟨known, i, hl.detected_eq known hknown, hi, husable⟩

/-- A launch on an external runtime that is known and can be used fails with errors of the analysis
only. -/
theorem isBooked_of_launchExternal {runtime : String} {known : List (String × RuntimeInfo)}
    {i : RuntimeInfo} (hknown : l.detected = some known) (hi : known.lookup runtime = some i)
    (husable : i.usable = true) {files : List String} {options : List (String × Json)}
    {signal : Signal} {e : LaunchError}
    (h : (l.launchExternal runtime language files options signal).1 = .error e) :
    e.isBooked = true := by
  have hruntime : l.runtime? runtime = (.ok (some i), l) := by
    simp [runtime?, ask, runtimes, hknown, hi, Except.map]
  simp only [launchExternal, hruntime, husable, Bool.not_true, Bool.false_eq_true, if_false] at h
  split at h
  · cases h
    rfl
  · exact isBooked_of_runExternal h

/-- An answer and a cancellation do not speak of a runtime. -/
theorem kind_ne_unavailable_of_course {m : Machine} {attempts : Nat} {entries : LaunchStats}
    {r : TaskResult} (h : Course m language attempts entries (.ok r)) :
    ∀ e ∈ r.errors, e.kind ≠ "runtime-unavailable" := by
  intro e he
  cases h with
  | recalled | stopped =>
      rw [List.mem_singleton.1 he]
      simp
  | answered _ _ _ _ hkinds =>
      rw [hkinds e he]
      simp

/-- A launch in process does not speak of a runtime. -/
theorem kind_ne_unavailable_of_native {runtime : String} (h : isNative runtime = true)
    (files : List String) (options : List (String × Json)) (signal : Signal) :
    ∀ e ∈ (l.launch runtime language files options signal).result.errors,
      e.kind ≠ "runtime-unavailable" := by
  simp only [launch, h, if_true]
  cases hresult : (Native.analyze l.workspace l.registry language files (.obj options)
      signal).result with
  | ok result =>
      intro e he hkind
      have hkinds := Native.kind_of_mem_analyze hresult e he
      rw [hkind] at hkinds
      simp at hkinds
  | error f =>
      intro e he
      rw [List.mem_singleton.1 he]
      simp [LaunchError.kind]

/-- A launch on an external runtime that is known and can be used does not report that it is not
available. -/
theorem kind_ne_unavailable_of_usable {runtime : String} (hexternal : isNative runtime = false)
    {known : List (String × RuntimeInfo)} {i : RuntimeInfo} (hknown : l.detected = some known)
    (hi : known.lookup runtime = some i) (husable : i.usable = true) (files : List String)
    (options : List (String × Json)) (signal : Signal) :
    ∀ e ∈ (l.launch runtime language files options signal).result.errors,
      e.kind ≠ "runtime-unavailable" := by
  rcases exists_course_launch l hexternal language files options signal with
    ⟨hresult, _, _, _, hcourse, _⟩
  rw [hresult]
  cases hdone : (l.launchExternal runtime language files options signal).1 with
  | ok r =>
      rw [hdone] at hcourse
      exact kind_ne_unavailable_of_course hcourse
  | error e =>
      -- The only failure that speaks of a runtime is the one that is not booked.
      have hmem := e.isBooked_iff_kind_mem.1 (isBooked_of_launchExternal hknown hi husable hdone)
      intro record hrecord
      rw [List.mem_singleton.1 hrecord]
      change e.kind ≠ "runtime-unavailable"
      intro hkind
      rw [hkind] at hmem
      simp [LaunchError.bookedKinds] at hmem

/-- The launch of a ready language does not report that its runtime is not available. -/
theorem Ready.kind_ne_unavailable (h : l.Ready language) (files : List String)
    (options : List (String × Json)) (signal : Signal) :
    ∀ e ∈ (l.launch (l.runtimeFor language) language files options signal).result.errors,
      e.kind ≠ "runtime-unavailable" := by
  cases hnative : isNative (l.runtimeFor language) with
  | true => exact kind_ne_unavailable_of_native hnative files options signal
  | false =>
      rcases h with hnative' | ⟨known, i, hknown, hi, husable⟩
      · rw [hnative] at hnative'
        cases hnative'
      · exact kind_ne_unavailable_of_usable hnative hknown hi husable files options signal

/-! ## Launches one after the other -/

/-- A launcher after any launches. -/
inductive Launched (l : Launcher) : Launcher → Prop where
  | start : Launched l l
  | launch {l' : Launcher} (runtime language : String) (files : List String)
      (options : List (String × Json)) (signal : Signal) : Launched l l' →
      Launched l (l'.launch runtime language files options signal).launcher

theorem remembers_launch (l : Launcher) (runtime language : String) (files : List String)
    (options : List (String × Json)) (signal : Signal) :
    Remembers l (l.launch runtime language files options signal).launcher := by
  cases hnative : isNative runtime with
  | true =>
      simp only [launch, hnative, if_true]
      split
      · exact .refl l
      · exact ⟨rfl, rfl, fun _ h => h⟩
  | false =>
      rcases exists_course_launch l hnative language files options signal with
        ⟨_, _, _, _, _, hdid⟩
      exact hdid.toRemembers

/-- Launches forget neither the adapters nor the specifications nor the runtimes. -/
theorem Launched.remembers (h : Launched l l') : Remembers l l' := by
  induction h with
  | start => exact .refl l
  | launch runtime language files options signal _ ih =>
      exact ih.trans (remembers_launch _ runtime language files options signal)

end Launcher
end CrossAudit
