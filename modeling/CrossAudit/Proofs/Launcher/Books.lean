import CrossAudit.Proofs.Launcher.Course

/-!
# Balanced books

A launcher is sent on one errand after another, each on an external runtime and on a machine and a
workspace of its own.  Whatever happens, an errand comes to a result and is accounted for, and the
books of the launcher stay balanced.

Main results:

- Theorem `accounted_send`: what one errand changes in the books, told by how often it tried to
  start a process, by what came of these attempts and by its result.
- Theorem `balanced_after`: balanced books stay balanced over any errands.
- Theorem `books_balanced`: both, for a launcher that starts with empty books.
-/

namespace CrossAudit

/-- A launch to be made on an external runtime, with the machine and the workspace that it meets. -/
structure Errand where
  runtime : String
  external : Launcher.isNative runtime = false
  language : String
  files : List String
  options : List (String × Json)
  signal : Signal
  machine : Machine
  workspace : Workspace

namespace Machine

/-- Whether one of the first attempts starts a process. -/
def runs (m : Machine) (attempts : Nat) : Bool :=
  (List.range attempts).any fun i =>
    match m.startAt i with
    | .running _ => true
    | _ => false

namespace Tried

variable {m : Machine} {retried : Bool}

/-- There are two attempts exactly if the first one meets an error that may go away. -/
theorem attempts_eq_two_iff {start : Start} (h : m.Tried retried start) :
    1 + retried.toNat = 2 ↔ 1 ≤ 1 + retried.toNat ∧ m.StartsBadly := by
  rw [← h.retried_iff]
  cases retried <;> simp

/-- A process that runs was started by the last attempt. -/
theorem runs_running {b : Behaviour} (h : m.Tried retried (.running b)) :
    m.runs (1 + retried.toNat) = true := by
  rw [runs, List.any_eq_true]
  refine ⟨retried.toNat, List.mem_range.2 (by omega), ?_⟩
  rw [← h.start_eq]

/-- If the last attempt does not start a process, neither did the first. -/
theorem runs_eq_false {start : Start} (h : m.Tried retried start) (hstart : ∀ b, start ≠ .running b) :
    m.runs (1 + retried.toNat) = false := by
  rw [runs, List.any_eq_false]
  intro i hi
  -- The only attempt before the last one was refused.
  have hidle : ∀ b, m.startAt i ≠ .running b := by
    cases retried with
    | false =>
        have hzero : i = 0 := by simpa using List.mem_range.1 hi
        rwa [hzero, ← show start = m.startAt 0 from h.start_eq]
    | true =>
        rcases h.retried_iff.1 rfl with ⟨e, hfirst, _⟩
        have hbound : i < 2 := List.mem_range.1 hi
        obtain rfl | rfl : i = 0 ∨ i = 1 := by omega
        · simp [hfirst]
        · rwa [← show start = m.startAt 1 from h.start_eq]
  split
  · rename_i b hrunning
    exact absurd hrunning (hidle b)
  · simp

end Tried
end Machine

namespace Launcher

/-! ## Results -/

/-- The result of a launch that was called off, or whose runtime is not there. -/
def Withdrawn (r : TaskResult) : Prop :=
  ∃ language text kind, r = .failed language text kind ∧
    (kind = "cancelled" ∨ kind = "runtime-unavailable")

/-- Whether a result tells of a cancellation. -/
def tellsCancelled (r : TaskResult) : Bool :=
  r.errors.any fun e => e.kind == "cancelled"

/-- The result of a cancelled launch is withdrawn. -/
theorem withdrawn_cancelled (language : String) : Withdrawn (cancelled language) :=
  ⟨language, _, _, rfl, Or.inl rfl⟩

/-- A failure is withdrawn if its kind says so. -/
theorem withdrawn_failed_iff (language text kind : String) :
    Withdrawn (.failed language text kind) ↔ kind = "cancelled" ∨ kind = "runtime-unavailable" := by
  constructor
  · rintro ⟨language', text', kind', heq, hkind⟩
    simp only [TaskResult.failed, TaskResult.mk.injEq, List.cons.injEq, ErrorRecord.mk.injEq] at heq
    rw [heq.2.2.2.2.1.2.1]
    exact hkind
  · intro hkind
    exact ⟨language, text, kind, rfl, hkind⟩

/-- An answer is not withdrawn: it can report errors of an analysis only. -/
theorem not_withdrawn_of_kinds {r : TaskResult} (h : ∀ e ∈ r.errors, e.kind = "analysis") :
    ¬ Withdrawn r := by
  rintro ⟨language, text, kind, rfl, hkind⟩
  have hanalysis : kind = "analysis" := h _ List.mem_cons_self
  subst hanalysis
  simp at hkind

namespace LaunchError

/-- The failures that are booked are those that are not withdrawn. -/
theorem isBooked_iff_not_withdrawn (e : LaunchError) (language : String) :
    e.isBooked = true ↔ ¬ Withdrawn (.failed language e.message e.kind) := by
  rw [withdrawn_failed_iff]
  cases e <;> simp [isBooked, kind]

end LaunchError

/-! ## What follows from a course -/

namespace Course

variable {m : Machine} {language : String} {attempts : Nat} {entries : LaunchStats}
  {done : Except LaunchError TaskResult}

/-- Every attempt is accounted for: there are at most two, the second one is a retry, and a process
is booked exactly if one of them starts it. -/
theorem attempts_spec (h : Course m language attempts entries done) :
    attempts ≤ 2 ∧ (attempts = 2 ↔ 1 ≤ attempts ∧ m.StartsBadly) ∧
      entries.retries = (if attempts = 2 then 1 else 0) ∧
      entries.spawned = (m.runs attempts).toNat := by
  -- Without an attempt there is nothing to account for; otherwise what starting came to decides.
  have hbound : ∀ retried : Bool, 1 + retried.toNat ≤ 2 := by decide
  have hretries : ∀ retried : Bool,
      retried.toNat = if 1 + retried.toNat = 2 then 1 else 0 := by decide
  cases h with
  | unstarted | recalled => simp [Machine.runs]
  | refused _ _ htried | brokenOff _ htried =>
      exact ⟨hbound _, htried.attempts_eq_two_iff, hretries _,
        by rw [htried.runs_eq_false (by simp)]; rfl⟩
  | late _ _ _ htried | spoilt _ _ htried | stopped _ htried | answered _ _ htried =>
      exact ⟨hbound _, htried.attempts_eq_two_iff, hretries _, by rw [htried.runs_running]; rfl⟩

/-- How the books tell the end of a launch. -/
inductive Ending (language : String) (entries : LaunchStats) :
    Except LaunchError TaskResult → Prop where
  | withdrawn {done : Except LaunchError TaskResult} : Withdrawn (resultOf language done) →
      (∀ error, done = .error error → error.isBooked = false) →
      entries.succeeded = 0 → entries.failed = 0 → Ending language entries done
  | failed (error : LaunchError) : error.isBooked = true →
      entries.succeeded = 0 → entries.failed = 1 → Ending language entries (.error error)
  | answered (r : TaskResult) : ¬ Withdrawn r →
      entries.succeeded = 1 → entries.failed = 0 → Ending language entries (.ok r)

/-- A launch that comes to an error is booked as failed, or withdrawn. -/
theorem ending_error {error : LaunchError} (hsucceeded : entries.succeeded = 0)
    (hfailed : entries.failed = 0) :
    Ending language (entries.plus (lastEntry (.error error))) (.error error) := by
  have hwithdrawn := error.isBooked_iff_not_withdrawn language
  rw [lastEntry_error]
  cases hbooked : error.isBooked with
  | true =>
      exact .failed error hbooked (by simp [LaunchStats.plus, hsucceeded])
        (by simp [LaunchStats.plus, hfailed])
  | false =>
      refine .withdrawn ?_ ?_ (by simp [LaunchStats.plus, hsucceeded])
        (by simp [LaunchStats.plus, hfailed])
      · rw [hbooked] at hwithdrawn
        exact not_not.1 fun hnot => Bool.false_ne_true (hwithdrawn.2 hnot)
      · rintro error' ⟨⟩
        exact hbooked

/-- The books tell the end of every course. -/
theorem ending (h : Course m language attempts entries done) :
    Ending language (entries.plus (lastEntry done)) done := by
  cases h with
  | unstarted | refused | brokenOff | late | spoilt => exact ending_error rfl rfl
  | recalled | stopped => exact .withdrawn (withdrawn_cancelled language) nofun rfl rfl
  | answered r _ _ _ hkinds => exact .answered r (not_withdrawn_of_kinds hkinds) rfl rfl

/-- What the books tell of a launch, by its result. -/
theorem Ending.verdict {s s' : LaunchStats} (h : Ending language entries done)
    (hstats : s' = s.plus entries) :
    (Withdrawn (resultOf language done) → s'.succeeded = s.succeeded ∧ s'.failed = s.failed) ∧
      (¬ Withdrawn (resultOf language done) →
        s'.succeeded = s.succeeded + 1 ∧ s'.failed = s.failed ∨
          s'.succeeded = s.succeeded ∧ s'.failed = s.failed + 1) ∧
      (s'.failed = s.failed + 1 ↔ ∃ error, done = .error error ∧
        error.kind ∈ LaunchError.bookedKinds ∧
        resultOf language done = .failed language error.message error.kind) := by
  have hs : s'.succeeded = s.succeeded + entries.succeeded := by rw [hstats]; rfl
  have hf : s'.failed = s.failed + entries.failed := by rw [hstats]; rfl
  cases h with
  | withdrawn hwithdrawn hunbooked hsucceeded hfailed =>
      refine ⟨fun _ => by omega, fun hnot => absurd hwithdrawn hnot, iff_of_false (by omega) ?_⟩
      rintro ⟨error, rfl, hkind, _⟩
      have hbooked := error.isBooked_iff_kind_mem.2 hkind
      rw [hunbooked error rfl] at hbooked
      cases hbooked
  | failed error hbooked hsucceeded hfailed =>
      have hnot := (error.isBooked_iff_not_withdrawn language).1 hbooked
      exact ⟨fun hwithdrawn => absurd hwithdrawn hnot, fun _ => Or.inr (by omega),
        iff_of_true (by omega) ⟨error, rfl, error.isBooked_iff_kind_mem.1 hbooked, rfl⟩⟩
  | answered r hnot hsucceeded hfailed =>
      refine ⟨fun hwithdrawn => absurd hwithdrawn hnot, fun _ => Or.inl (by omega),
        iff_of_false (by omega) ?_⟩
      rintro ⟨error, herror, _⟩
      cases herror

/-- The result of a course is in its language. -/
theorem language_resultOf (h : Course m language attempts entries done) :
    (resultOf language done).language = language := by
  cases h with
  | answered r _ _ hlanguage => exact hlanguage
  | _ => rfl

/-- The entries of a launch are balanced, up to a process that was started and called off. -/
theorem balance (h : Course m language attempts entries done) {total : LaunchStats}
    (htotal : total = entries.plus (lastEntry done)) :
    total.timeouts ≤ total.failed ∧ total.succeeded + total.timeouts ≤ total.spawned ∧
      total.spawned ≤ total.succeeded + total.failed +
        (m.runs attempts && tellsCancelled (resultOf language done)).toNat := by
  subst htotal
  cases h with
  | recalled | answered => simp [LaunchStats.plus]
  | unstarted | refused | brokenOff => simp [LaunchStats.plus, lastEntry_error]
  | late => simp [LaunchStats.plus, lastEntry_error, LaunchError.isBooked]
  | spoilt _ _ _ hbooked => simp [LaunchStats.plus, lastEntry_error, hbooked]
  | stopped _ htried =>
      have htells : tellsCancelled (cancelled language) = true := rfl
      simp [LaunchStats.plus, htried.runs_running, resultOf, htells]

end Course

/-! ## Errands -/

/-- A launcher on the machine and the workspace of an errand. -/
def facing (l : Launcher) (e : Errand) : Launcher :=
  { l with machine := e.machine, workspace := e.workspace }

/-- What an errand comes to. -/
def send (l : Launcher) (e : Errand) : Outcome :=
  (l.facing e).launch e.runtime e.language e.files e.options e.signal

/-- A launcher after errands. -/
def after (l : Launcher) (errands : List Errand) : Launcher :=
  errands.foldl (fun l e => (l.send e).launcher) l

/-- How often an errand tries to start a process. -/
def attempts (l : Launcher) (e : Errand) : Nat :=
  ((l.send e).launcher.events.drop l.events.length).countP Event.isSpawn

/-- Whether an errand is called off after its process was started. -/
def isStopped (l : Launcher) (e : Errand) : Bool :=
  e.machine.runs (l.attempts e) && tellsCancelled (l.send e).result

/-- How many errands are called off after their process was started. -/
def stoppedCount (l : Launcher) : List Errand → Nat
  | [] => 0
  | e :: rest => (l.isStopped e).toNat + (l.send e).launcher.stoppedCount rest

/-- What an errand comes to before a failure is booked. -/
def outcome (l : Launcher) (e : Errand) : Except LaunchError TaskResult :=
  ((l.facing e).launchExternal e.runtime e.language e.files e.options e.signal).1

/-- An errand takes a course: its result is that of what it comes to, no process stays, and the
books change by the entries of the course and the last one. -/
theorem exists_course_send (l : Launcher) (e : Errand) :
    (l.send e).result = resultOf e.language (l.outcome e) ∧ (l.send e).launcher.live = l.live ∧
      ∃ entries, Course e.machine e.language (l.attempts e) entries (l.outcome e) ∧
        (l.send e).launcher.stats = l.stats.plus (entries.plus (lastEntry (l.outcome e))) := by
  rcases exists_course_launch (l.facing e) e.external e.language e.files e.options e.signal with
    ⟨hresult, hlive, attempts, entries, hcourse, hdid⟩
  rcases hdid.events with ⟨added, hevents, hcount⟩
  have hattempts : l.attempts e = attempts := by
    have hevents' : (l.send e).launcher.events = l.events ++ added := hevents
    rw [Launcher.attempts, hevents', List.drop_left, hcount]
  rw [hattempts]
  exact ⟨hresult, hlive, entries, hcourse, hdid.stats⟩

/-! ## One errand -/

/-- How an errand shows in the books of a launcher. -/
structure Accounted (l : Launcher) (e : Errand) : Prop where
  language_eq : (l.send e).result.language = e.language
  attempts_le : l.attempts e ≤ 2
  retried_iff : l.attempts e = 2 ↔ 1 ≤ l.attempts e ∧ e.machine.StartsBadly
  retries_eq : (l.send e).launcher.stats.retries =
    l.stats.retries + if l.attempts e = 2 then 1 else 0
  spawned_eq : (l.send e).launcher.stats.spawned =
    l.stats.spawned + (e.machine.runs (l.attempts e)).toNat
  of_withdrawn : Withdrawn (l.send e).result →
    (l.send e).launcher.stats.succeeded = l.stats.succeeded ∧
      (l.send e).launcher.stats.failed = l.stats.failed
  of_not_withdrawn : ¬ Withdrawn (l.send e).result →
    (l.send e).launcher.stats.succeeded = l.stats.succeeded + 1 ∧
        (l.send e).launcher.stats.failed = l.stats.failed ∨
      (l.send e).launcher.stats.succeeded = l.stats.succeeded ∧
        (l.send e).launcher.stats.failed = l.stats.failed + 1
  failed_iff : (l.send e).launcher.stats.failed = l.stats.failed + 1 ↔
    ∃ error, l.outcome e = .error error ∧ error.kind ∈ LaunchError.bookedKinds ∧
      (l.send e).result = .failed e.language error.message error.kind
  live_eq : (l.send e).launcher.live = l.live

/-- The books account for every errand. -/
theorem accounted_send (l : Launcher) (e : Errand) : Accounted l e := by
  rcases exists_course_send l e with ⟨hresult, hlive, entries, hcourse, hstats⟩
  rcases hcourse.attempts_spec with ⟨hle, hretried, hretries, hspawned⟩
  rcases hcourse.ending.verdict hstats with ⟨hwithdrawn, hnot, hfailed⟩
  rw [← hresult] at hwithdrawn hnot hfailed
  refine ⟨?_, hle, hretried, ?_, ?_, hwithdrawn, hnot, hfailed, hlive⟩
  · rw [hresult]
    exact hcourse.language_resultOf
  · rw [hstats, ← hretries]
    simp [LaunchStats.plus, retries_lastEntry]
  · rw [hstats, ← hspawned]
    simp [LaunchStats.plus, spawned_lastEntry]

/-! ## All errands -/

/-- Books that are balanced, up to processes that were called off: none is still alive. -/
structure Balanced (l : Launcher) (stopped : Nat) : Prop where
  live_eq : l.live = []
  timeouts_le : l.stats.timeouts ≤ l.stats.failed
  le_spawned : l.stats.succeeded + l.stats.timeouts ≤ l.stats.spawned
  spawned_le : l.stats.spawned ≤ l.stats.succeeded + l.stats.failed + stopped

/-- Books without entries balance, if no process runs. -/
theorem balanced_of_empty {l : Launcher} (hstats : l.stats = {}) (hlive : l.live = []) :
    Balanced l 0 := by
  constructor <;> simp [hstats, hlive]

/-- One errand keeps the books balanced. -/
theorem balanced_send {l : Launcher} {stopped : Nat} (h : Balanced l stopped) (e : Errand) :
    Balanced (l.send e).launcher (stopped + (l.isStopped e).toNat) := by
  rcases exists_course_send l e with ⟨hresult, hlive, entries, hcourse, hstats⟩
  rcases hcourse.balance rfl with ⟨htimeouts, hspawned, hstopped⟩
  rw [← hresult] at hstopped
  generalize entries.plus (lastEntry (l.outcome e)) = total at *
  rcases h with ⟨hnone, htimeouts', hspawned', hstopped'⟩
  refine ⟨hlive.trans hnone, ?_, ?_, ?_⟩ <;> rw [hstats] <;>
    simp only [LaunchStats.plus, isStopped] <;> omega

/-- Books that balance still do after any errands. -/
theorem balanced_after {l : Launcher} {stopped : Nat} (h : Balanced l stopped)
    (errands : List Errand) :
    Balanced (l.after errands) (stopped + l.stoppedCount errands) := by
  induction errands generalizing l stopped with
  | nil => exact h
  | cons e rest ih =>
      have hrest := ih (balanced_send h e)
      rw [Nat.add_assoc] at hrest
      exact hrest

/-- From empty books on, every errand is accounted for, and the books are balanced. -/
theorem books_balanced (l : Launcher) (hstats : l.stats = {}) (hlive : l.live = [])
    (errands : List Errand) :
    (∀ e, Accounted (l.after errands) e) ∧
      Balanced (l.after errands) (l.stoppedCount errands) := by
  refine ⟨accounted_send _, ?_⟩
  have hafter := balanced_after (balanced_of_empty hstats hlive) errands
  rwa [Nat.zero_add] at hafter

/-- A launcher that knows of one runtime, which needs no analyzer. -/
def solitary : Launcher where
  detected := some [("go", { name := "go", languages := ["go"], available := true })]
  specs := [("go", { name := "go", languages := ["go"], executable := "go" })]

/-- An errand to that runtime on a machine with some starts. -/
def errandWith (starts : List Start) : Errand where
  runtime := "go"
  external := rfl
  language := "go"
  files := ["main.go"]
  options := []
  signal := {}
  machine := { starts := starts }
  workspace := {}

/-- A busy machine on which the process then exceeds its time; a process that is called off; and a
start that is refused for good. -/
def threeErrands : List Errand :=
  [errandWith [.refused ⟨11, "busy"⟩, .running { timesOut := true }],
    errandWith [.running { cancels := true }], errandWith []]

/-- Three errands, one of which is stopped, and their books. -/
theorem books_balanced_three :
    (solitary.after threeErrands).stats =
        { spawned := 2, failed := 2, timeouts := 1, retries := 1 } ∧
      solitary.stoppedCount threeErrands = 1 ∧
      (∀ e, Accounted (solitary.after threeErrands) e) ∧ Balanced (solitary.after threeErrands) 1 :=
  ⟨by decide, by decide, books_balanced solitary rfl rfl threeErrands⟩

-- A process whose output is no text is booked as failed.
example : (solitary.after [errandWith [.running { trouble := some (.raised "no text") }]]).stats =
    { spawned := 1, failed := 1 } := by
  decide

end Launcher
end CrossAudit
