import CrossAudit.Launcher.Spawn
import CrossAudit.Proofs.Failing

/-!
# The course of a launch

A launch on an external runtime can go a handful of ways: it may not get as far as starting a
process, or be called off before; the start may be refused, once or twice, or go wrong otherwise;
and a process that runs may exceed its time, be called off, say nothing that can be read, or answer.
Each way has its entries in the books.

Main results:

- Theorem `took_launchExternal`: every launch takes one of these courses, and changes the books by
  the entries of its course.
- Theorem `exists_course_launch`: the result of a launch is told by what it comes to, and a failure
  is booked in the end.
-/

namespace CrossAudit

/-! ## Entries in the books -/

namespace LaunchStats

/-- Books with further entries. -/
def plus (s entries : LaunchStats) : LaunchStats where
  spawned := s.spawned + entries.spawned
  succeeded := s.succeeded + entries.succeeded
  failed := s.failed + entries.failed
  timeouts := s.timeouts + entries.timeouts
  retries := s.retries + entries.retries
  killed := s.killed + entries.killed

/-- Entries that are made in two rounds are made in one. -/
theorem plus_plus (s a b : LaunchStats) : (s.plus a).plus b = s.plus (a.plus b) := by
  simp [plus, Nat.add_assoc]

end LaunchStats

/-! ## Attempts to start a process -/

/-- An attempt to start a process. -/
def Event.isSpawn : Event → Bool
  | .spawn _ => true
  | _ => false

namespace Machine

/-- What comes of the start with a number; when all are used up, there is nothing to start. -/
def startAt (m : Machine) (i : Nat) : Start :=
  (m.starts[i]?).getD (.refused .noSuchFile)

/-- The first start meets an error that may go away by itself. -/
def StartsBadly (m : Machine) : Prop :=
  ∃ e, m.startAt 0 = .refused e ∧ e.isTransient = true

/-- What starting came to, after one retry or none; there is a retry exactly if the first start
meets an error that may go away. -/
structure Tried (m : Machine) (retried : Bool) (start : Start) : Prop where
  start_eq : start = m.startAt retried.toNat
  retried_iff : retried = true ↔ m.StartsBadly

/-- The next start is the first one. -/
theorem fst_next (m : Machine) : m.next.1 = m.startAt 0 := by
  rcases m with ⟨_, _, _, _, starts, _, _, _⟩
  cases starts <;> rfl

/-- The start after the next one is the second. -/
theorem fst_next_next (m : Machine) : m.next.2.next.1 = m.startAt 1 := by
  rcases m with ⟨_, _, _, _, starts, _, _, _⟩
  rcases starts with _ | ⟨_, _ | ⟨_, _⟩⟩ <;> rfl

end Machine

namespace Launcher

/-! ## What a part of a launch does -/

/-- A launcher that has the adapters and the specifications of an earlier one, and knows the
runtimes that this one knew. -/
structure Remembers (l l' : Launcher) : Prop where
  registry_eq : l'.registry = l.registry
  specs_eq : l'.specs = l.specs
  detected_eq : ∀ known, l.detected = some known → l'.detected = some known

namespace Remembers

variable {l l' l'' : Launcher}

/-- A launcher remembers itself. -/
theorem refl (l : Launcher) : Remembers l l :=
  ⟨rfl, rfl, fun _ h => h⟩

/-- What is remembered of what is remembered is remembered. -/
theorem trans (h : Remembers l l') (h' : Remembers l' l'') : Remembers l l'' :=
  ⟨h'.registry_eq.trans h.registry_eq, h'.specs_eq.trans h.specs_eq,
    fun known hknown => h'.detected_eq known (h.detected_eq known hknown)⟩

end Remembers

/-- A part of a launch tries to start a process some times and makes entries in the books. -/
structure Did (l : Launcher) (attempts : Nat) (entries : LaunchStats) (l' : Launcher) : Prop
    extends Remembers l l' where
  stats : l'.stats = l.stats.plus entries
  events : ∃ added, l'.events = l.events ++ added ∧ added.countP Event.isSpawn = attempts

namespace Did

variable {l l' l'' : Launcher} {m n : Nat} {a b : LaunchStats}

/-- Doing nothing makes no entries. -/
theorem refl (l : Launcher) : Did l 0 {} l :=
  ⟨.refl l, rfl, [], by simp, rfl⟩

/-- Two parts of a launch add up their attempts and their entries. -/
theorem trans (h : Did l m a l') (h' : Did l' n b l'') : Did l (m + n) (a.plus b) l'' := by
  rcases h.events with ⟨added, hadded, hcount⟩
  rcases h'.events with ⟨added', hadded', hcount'⟩
  refine ⟨h.toRemembers.trans h'.toRemembers, ?_, added ++ added', ?_, ?_⟩
  · rw [h'.stats, h.stats, LaunchStats.plus_plus]
  · rw [hadded', hadded, List.append_assoc]
  · rw [List.countP_append, hcount, hcount']

/-- The processes that are alive do not matter. -/
theorem withLive (h : Did l m a l') (live : List Behaviour) :
    Did l m a { l' with live := live } :=
  ⟨⟨h.registry_eq, h.specs_eq, h.detected_eq⟩, h.stats, h.events⟩

/-- Events that are noted make no entries. -/
theorem note (l : Launcher) (events : List Event) :
    Did l (events.countP Event.isSpawn) {} (l.note events) :=
  ⟨⟨rfl, rfl, fun _ h => h⟩, rfl, events, rfl, rfl⟩

/-- An entry in the books is no event. -/
theorem book (l : Launcher) {f : LaunchStats → LaunchStats} (h : f l.stats = l.stats.plus a) :
    Did l 0 a (l.book f) :=
  ⟨⟨rfl, rfl, fun _ h => h⟩, h, [], (List.append_nil _).symm, rfl⟩

end Did

/-! ## Starting -/

/-- One start is one attempt and makes no entry. -/
theorem did_startOnce (l : Launcher) (command : List String) :
    Did l 1 {} (l.startOnce command).2 :=
  ⟨⟨rfl, rfl, fun _ h => h⟩, rfl, [.spawn command], rfl, rfl⟩

/-- One start meets what the machine has first. -/
theorem fst_startOnce (l : Launcher) (command : List String) :
    (l.startOnce command).1 = l.machine.startAt 0 :=
  l.machine.fst_next

/-- A launcher that is about to try again. -/
def retrying (l : Launcher) : Launcher :=
  (l.note [.pause]).book fun s => { s with retries := s.retries + 1 }

/-- Before another try one retry is booked. -/
theorem did_retrying (l : Launcher) : Did l 0 { retries := 1 } l.retrying := by
  have hbook : Did (l.note [.pause]) 0 { retries := 1 } l.retrying := .book _ rfl
  exact (Did.note l [.pause]).trans hbook

/-- A process is started once, and once more if what went wrong may go away. -/
theorem start_eq (l : Launcher) (command : List String) :
    l.start command =
      match l.machine.startAt 0 with
      | .running b => (.running b, (l.startOnce command).2)
      | .brokenOff f => (.brokenOff f, (l.startOnce command).2)
      | .refused e =>
        if e.isTransient then (l.startOnce command).2.retrying.startOnce command
        else (.refused e, (l.startOnce command).2) := by
  rw [← fst_startOnce l command]
  unfold start
  rcases l.startOnce command with ⟨e | f | b, l₁⟩ <;> rfl

/-- Starting tries once, or twice if the first start meets an error that may go away. -/
theorem exists_tried_start (l : Launcher) (command : List String) :
    ∃ retried, l.machine.Tried retried (l.start command).1 ∧ (l.start command).2.live = l.live ∧
      Did l (1 + retried.toNat) { retries := retried.toNat } (l.start command).2 := by
  have honce := did_startOnce l command
  rw [start_eq]
  cases hfirst : l.machine.startAt 0 with
  | running b | brokenOff f =>
      refine ⟨false, ⟨hfirst.symm, iff_of_false Bool.false_ne_true ?_⟩, rfl, honce⟩
      rintro ⟨e, he, _⟩
      cases hfirst.symm.trans he
  | refused e =>
      by_cases htransient : e.isTransient = true
      · simp only [htransient, if_true]
        refine ⟨true, ⟨?_, iff_of_true rfl ⟨e, hfirst, htransient⟩⟩, rfl, ?_⟩
        · rw [fst_startOnce, Bool.toNat_true, ← Machine.fst_next_next, Machine.fst_next]
          rfl
        · exact (honce.trans (did_retrying _)).trans (did_startOnce _ command)
      · simp only [htransient]
        refine ⟨false, ⟨hfirst.symm, iff_of_false Bool.false_ne_true ?_⟩, rfl, honce⟩
        rintro ⟨e', he', htransient'⟩
        rw [hfirst, Start.refused.injEq] at he'
        exact htransient (he' ▸ htransient')

/-! ## Talking to a process -/

/-- Killing every process that runs books as many as there are. -/
theorem did_killAll (l : Launcher) : Did l 0 { killed := l.killAll.1 } l.killAll.2 := by
  refine ⟨⟨rfl, rfl, fun _ h => h⟩, rfl, _, rfl, ?_⟩
  simp [List.countP_append, List.countP_replicate, Event.isSpawn]

/-- While a process runs, no other is started, and at most the number of killed ones changes. -/
theorem exists_did_duringRun (l : Launcher) (b : Behaviour) (signal : Signal) :
    ∃ killed, Did l 0 { killed := killed } (l.duringRun b signal).2 := by
  unfold duringRun
  cases b.killsAll with
  | false => exact ⟨0, Did.refl l⟩
  | true => exact ⟨_, did_killAll l⟩

/-- How a conversation ends: the process printed something, exceeded its time, or exceeded it and
could not be killed; or taking its output went wrong. -/
inductive Conversed (l l' : Launcher) : Option LaunchError → Prop where
  | printed (killed : Nat) : Did l 0 { spawned := 1, killed := killed } l' → Conversed l l' none
  | late (runtime : String) (timeout : Binary64) (killed : Nat) :
      Did l 0 { spawned := 1, timeouts := 1, killed := killed } l' →
      Conversed l l' (some (.timedOut runtime timeout))
  | unkillable (e : SystemError) (killed : Nat) :
      Did l 0 { spawned := 1, killed := killed } l' → Conversed l l' (some (.system e))
  | brokenOff (f : Fault) (killed : Nat) :
      Did l 0 { spawned := 1, killed := killed } l' → Conversed l l' (some (.fault f))

/-- A launcher that waits for a process to answer a request. -/
def waiting (l : Launcher) (b : Behaviour) (request : String) (timeout : Binary64) : Launcher :=
  ({ l with live := l.live ++ [b] }.book fun s => { s with spawned := s.spawned + 1 }).note
    [.request request timeout]

/-- A process that is waited for is booked as spawned. -/
theorem did_waiting (l : Launcher) (b : Behaviour) (request : String) (timeout : Binary64) :
    Did l 0 { spawned := 1 } (l.waiting b request timeout) :=
  ⟨⟨rfl, rfl, fun _ h => h⟩, rfl, [.request request timeout], rfl, rfl⟩

/-- Every conversation ends in one of the ways, and leaves the processes that ran before. -/
theorem conversed_converse (l : Launcher) (b : Behaviour) (runtime request : String)
    (timeout : Binary64) (signal : Signal) :
    (l.converse b runtime request timeout signal).2.2.live = l.live ∧
      Conversed l (l.converse b runtime request timeout signal).2.2
        (l.converse b runtime request timeout signal).1 := by
  rcases exists_did_duringRun (l.waiting b request timeout) b signal with ⟨killed, hrun⟩
  have hdid := (did_waiting l b request timeout).trans hrun
  simp only [LaunchStats.plus, Nat.zero_add, Nat.add_zero] at hdid
  have hconverse : l.converse b runtime request timeout signal =
      let after := ((l.waiting b request timeout).duringRun b signal).2
      let signal := ((l.waiting b request timeout).duringRun b signal).1
      if b.timesOut then
        let late := after.endLate b runtime timeout
        (some late.1, signal, { late.2 with live := l.live })
      else (b.trouble.map .fault, signal, { after with live := l.live }) := rfl
  rw [hconverse]
  cases b.timesOut with
  | false =>
      refine ⟨rfl, ?_⟩
      cases b.trouble with
      | none => exact .printed killed (hdid.withLive l.live)
      | some f => exact .brokenOff f killed (hdid.withLive l.live)
  | true =>
      refine ⟨rfl, ?_⟩
      simp only [if_true, endLate]
      cases b.killError with
      | some e => exact .unkillable e killed (hdid.withLive l.live)
      | none =>
          cases b.trouble with
          | some f => exact .brokenOff f killed ((hdid.trans (.note _ [.kill])).withLive l.live)
          | none =>
              refine .late runtime timeout killed ?_
              have hbook : ∀ l₁ : Launcher, Did l₁ 0 { timeouts := 1 }
                  (l₁.book fun s => { s with timeouts := s.timeouts + 1 }) :=
                fun _ => .book _ rfl
              exact ((hdid.trans (.note _ [.kill])).trans (hbook _)).withLive l.live

/-! ## Failures -/

namespace LaunchError

/-- The kinds of failures that are booked. -/
def bookedKinds : List String :=
  ["spawn", "timeout", "protocol", "analysis"]

/-- The failures that are booked are those of certain kinds. -/
theorem isBooked_iff_kind_mem (e : LaunchError) : e.isBooked = true ↔ e.kind ∈ bookedKinds := by
  cases e <;> simp [isBooked, kind, bookedKinds]

end LaunchError

/-! ## What a process printed -/

/-- An answer is about the language, and can report errors of an analysis and no others. -/
theorem readOutput_eq_ok {runtime language : String} {b : Behaviour} {r : TaskResult}
    (h : readOutput runtime language b = .ok r) :
    r.language = language ∧ ∀ e ∈ r.errors, e.kind = "analysis" := by
  unfold readOutput at h
  split at h
  · split at h <;> cases h
  · split at h
    · cases h
    · cases h
      exact ⟨rfl, by simp [Wire.Result.toTask]⟩
    · cases h
      exact ⟨rfl, by simp⟩

/-- Output that cannot be used is a failure that is booked. -/
theorem isBooked_of_readOutput {runtime language : String} {b : Behaviour} {e : LaunchError}
    (h : readOutput runtime language b = .error e) : e.isBooked = true := by
  unfold readOutput at h
  split at h
  · split at h <;> cases h <;> rfl
  · split at h
    · cases h
      rfl
    · cases h
    · cases h

/-! ## Courses -/

/-- The courses that a launch can take on a machine: how often it tries to start a process, its
entries in the books, and what it comes to, before a failure is booked. -/
inductive Course (m : Machine) (language : String) :
    Nat → LaunchStats → Except LaunchError TaskResult → Prop where
  | unstarted (e : LaunchError) : Course m language 0 {} (.error e)
  | recalled : Course m language 0 {} (.ok (cancelled language))
  | refused {retried : Bool} (program : String) (e : SystemError) :
      m.Tried retried (.refused e) →
      Course m language (1 + retried.toNat) { retries := retried.toNat }
        (.error (.cannotStart program e))
  | brokenOff {retried : Bool} (f : Fault) : m.Tried retried (.brokenOff f) →
      Course m language (1 + retried.toNat) { retries := retried.toNat } (.error (.fault f))
  | late {retried : Bool} {b : Behaviour} (runtime : String) (timeout : Binary64) (killed : Nat) :
      m.Tried retried (.running b) →
      Course m language (1 + retried.toNat)
        { spawned := 1, timeouts := 1, retries := retried.toNat, killed := killed }
        (.error (.timedOut runtime timeout))
  | spoilt {retried : Bool} {b : Behaviour} (e : LaunchError) (killed : Nat) :
      m.Tried retried (.running b) → e.isBooked = true →
      Course m language (1 + retried.toNat)
        { spawned := 1, retries := retried.toNat, killed := killed } (.error e)
  | stopped {retried : Bool} {b : Behaviour} (killed : Nat) : m.Tried retried (.running b) →
      Course m language (1 + retried.toNat)
        { spawned := 1, retries := retried.toNat, killed := killed } (.ok (cancelled language))
  | answered {retried : Bool} {b : Behaviour} (r : TaskResult) (killed : Nat) :
      m.Tried retried (.running b) → r.language = language →
      (∀ e ∈ r.errors, e.kind = "analysis") →
      Course m language (1 + retried.toNat)
        { spawned := 1, succeeded := 1, retries := retried.toNat, killed := killed } (.ok r)

/-- From one launcher to another by one of the courses of a launch. -/
def Took (l l' : Launcher) (language : String) (done : Except LaunchError TaskResult) : Prop :=
  l'.live = l.live ∧
    ∃ attempts entries, Course l.machine language attempts entries done ∧ Did l attempts entries l'

/-- A launch that ends before it starts a process takes the course of one. -/
theorem took_unstarted (l : Launcher) (language : String) (e : LaunchError) :
    Took l l language (.error e) :=
  ⟨rfl, 0, {}, .unstarted e, Did.refl l⟩

/-- What comes of a process that runs. -/
def hear (l : Launcher) (b : Behaviour) (runtime language request : String) (timeout : Binary64)
    (signal : Signal) : Except LaunchError TaskResult × Signal × Launcher :=
  match l.converse b runtime request timeout signal with
  | (some e, signal, l) => (.error e, signal, l)
  | (none, signal, l) =>
    if signal.raised then (.ok (cancelled language), signal, l)
    else
      match readOutput runtime language b with
      | .error e => (.error e, signal, l)
      | .ok r => (.ok r, signal, l.book fun s => { s with succeeded := s.succeeded + 1 })

/-- A launch that has started a process takes its course by how the conversation ends. -/
theorem took_hear {l l₁ : Launcher} {retried : Bool} {b : Behaviour}
    (htried : l.machine.Tried retried (.running b)) (hlive : l₁.live = l.live)
    (hdid : Did l (1 + retried.toNat) { retries := retried.toNat } l₁)
    (runtime language request : String) (timeout : Binary64) (signal : Signal) :
    Took l (l₁.hear b runtime language request timeout signal).2.2 language
      (l₁.hear b runtime language request timeout signal).1 := by
  have hconverse := conversed_converse l₁ b runtime request timeout signal
  unfold hear
  generalize l₁.converse b runtime request timeout signal = spoken at hconverse ⊢
  rcases spoken with ⟨e?, signal', l₂⟩
  rcases hconverse with ⟨hlive', hconversed⟩
  have hback : l₂.live = l.live := hlive'.trans hlive
  cases hconversed with
  | late runtime timeout killed htalk =>
      refine ⟨hback, _, _, .late runtime timeout killed htried, ?_⟩
      simpa [LaunchStats.plus] using hdid.trans htalk
  | unkillable e killed htalk =>
      refine ⟨hback, _, _, .spoilt (.system e) killed htried rfl, ?_⟩
      simpa [LaunchStats.plus] using hdid.trans htalk
  | brokenOff f killed htalk =>
      refine ⟨hback, _, _, .spoilt (.fault f) killed htried rfl, ?_⟩
      simpa [LaunchStats.plus] using hdid.trans htalk
  | printed killed htalk =>
      have hran : Did l (1 + retried.toNat)
          { spawned := 1, retries := retried.toNat, killed := killed } l₂ := by
        simpa [LaunchStats.plus] using hdid.trans htalk
      dsimp only
      cases signal'.raised with
      | true => exact ⟨hback, _, _, .stopped killed htried, hran⟩
      | false =>
          simp only [Bool.false_eq_true, if_false]
          cases hread : readOutput runtime language b with
          | error e =>
              exact ⟨hback, _, _, .spoilt e killed htried (isBooked_of_readOutput hread), hran⟩
          | ok r =>
              rcases readOutput_eq_ok hread with ⟨hlanguage, hkinds⟩
              refine ⟨hback, _, _, .answered r killed htried hlanguage hkinds, ?_⟩
              have hbook : Did l₂ 0 { succeeded := 1 }
                  (l₂.book fun s => { s with succeeded := s.succeeded + 1 }) := .book l₂ rfl
              simpa [LaunchStats.plus] using hran.trans hbook

/-- A launch of a runtime that is known takes one of the courses. -/
theorem took_runExternal (l : Launcher) (i : RuntimeInfo) (spec : RuntimeSpec) (language : String)
    (files : List String) (options : List (String × Json)) (signal : Signal) :
    Took l (l.runExternal i spec language files options signal).2.2 language
      (l.runExternal i spec language files options signal).1 := by
  unfold runExternal
  cases l.command i spec with
  | error e => exact took_unstarted l language e
  | ok command =>
      dsimp only
      cases l.timeoutOf options with
      | error f => exact took_unstarted l language (.fault f)
      | ok timeout =>
          dsimp only
          cases signal.raised with
          | true => exact ⟨rfl, 0, {}, .recalled, Did.refl l⟩
          | false =>
              simp only [Bool.false_eq_true, if_false]
              rcases exists_tried_start l command with ⟨retried, htried, hlive, hdid⟩
              generalize l.start command = started at htried hlive hdid ⊢
              rcases started with ⟨e | f | b, l₁⟩
              · exact ⟨hlive, _, _, .refused (i.path.getD "") e htried, hdid⟩
              · exact ⟨hlive, _, _, .brokenOff f htried, hdid⟩
              · exact took_hear htried hlive hdid spec.name language _ timeout signal

/-! ## Detection on the way -/

/-- Looking for a runtime in some places starts no analyzer. -/
theorem countP_isSpawn_search (s : Detection.Scene) (spec : RuntimeSpec) (tried : List String)
    (places : List (String × String)) :
    (Detection.search s spec tried places).1.countP Event.isSpawn = 0 := by
  induction places generalizing tried with
  | nil => rfl
  | cons place rest ih =>
      rcases place with ⟨source, path⟩
      unfold Detection.search
      split
      · exact ih tried
      · split
        · rfl
        · rfl
        · simpa [Event.isSpawn] using ih (path :: tried)

/-- Detecting a runtime starts no analyzer. -/
theorem countP_isSpawn_detect (s : Detection.Scene) (spec : RuntimeSpec)
    (settings : Config.RuntimeSettings) :
    (Detection.detect s spec settings).1.countP Event.isSpawn = 0 := by
  unfold Detection.detect
  cases settings.disabled with
  | true => rfl
  | false =>
      simp only [Bool.false_eq_true, if_false]
      cases Detection.candidates s spec settings.path with
      | error f => rfl
      | ok places =>
          have hsearch := countP_isSpawn_search s spec [] places
          dsimp only
          generalize Detection.search s spec [] places = searched at hsearch ⊢
          rcases searched with ⟨events, f | _ | ⟨source, path, version⟩⟩ <;> exact hsearch

/-- Detecting all runtimes starts no analyzer. -/
theorem countP_isSpawn_detectAll (l : Launcher) (specs : List RuntimeSpec)
    (known : List (String × RuntimeInfo)) :
    (l.detectAll specs known).1.countP Event.isSpawn = 0 := by
  induction specs generalizing known with
  | nil => rfl
  | cons spec rest ih =>
      have hspec : (l.detectSpec spec).1.countP Event.isSpawn = 0 := by
        unfold detectSpec
        cases l.settings.load spec.name with
        | error f => rfl
        | ok settings => exact countP_isSpawn_detect l.scene spec settings
      unfold detectAll
      generalize l.detectSpec spec = detected at hspec ⊢
      rcases detected with ⟨events, f | i⟩
      · exact hspec
      · simp only [List.countP_append, ih, Nat.add_zero]
        exact hspec

/-- Telling the runtimes notes probes and remembers what was detected, and does nothing else. -/
theorem exists_runtimes_eq (l : Launcher) :
    ∃ probes detected, probes.countP Event.isSpawn = 0 ∧
      (∀ known, l.detected = some known → detected = some known) ∧
      l.runtimes.2 = { l.note probes with detected := detected } := by
  unfold runtimes
  cases hdetected : l.detected with
  | some known => exact ⟨[], some known, rfl, fun _ h => h, by simp [note, ← hdetected]⟩
  | none =>
      have hall := countP_isSpawn_detectAll l (l.specs.map (·.2)) l.nativeRuntimes
      dsimp only [detect]
      generalize l.detectAll (l.specs.map (·.2)) l.nativeRuntimes = told at hall ⊢
      rcases told with ⟨probes, f | known⟩
      · exact ⟨probes, none, hall, nofun, by simp [note, ← hdetected]⟩
      · exact ⟨probes, some known, hall, nofun, rfl⟩

/-! ## Launches -/

/-- A launch takes one of the courses, whether the runtime is known already or not. -/
theorem took_launchExternal (l : Launcher) (runtime language : String) (files : List String)
    (options : List (String × Json)) (signal : Signal) :
    Took l (l.launchExternal runtime language files options signal).2.2 language
      (l.launchExternal runtime language files options signal).1 := by
  -- The launcher that runs the analyzer knows its runtimes, and is otherwise as before.
  have hdetect : ∀ {l' : Launcher} {done : Except LaunchError TaskResult},
      Took l.runtimes.2 l' language done → Took l l' language done := by
    rcases exists_runtimes_eq l with ⟨probes, detected, hprobes, hknown, heq⟩
    rintro l' done ⟨hlive, attempts, entries, hcourse, hdid⟩
    rw [heq] at hlive hcourse hdid
    have hnote : Did l 0 {} { l.note probes with detected := detected } :=
      ⟨⟨rfl, rfl, hknown⟩, rfl, probes, rfl, hprobes⟩
    refine ⟨hlive, attempts, entries, hcourse, ?_⟩
    simpa [LaunchStats.plus] using hnote.trans hdid
  have hsnd : (l.runtime? runtime).2 = l.runtimes.2 := rfl
  unfold launchExternal
  generalize l.runtime? runtime = asked at hsnd ⊢
  rcases asked with ⟨f | i?, l₁⟩
  · rw [← hsnd] at hdetect
    exact hdetect (took_unstarted l₁ language _)
  · rw [← hsnd] at hdetect
    cases i? with
    | none => exact hdetect (took_unstarted l₁ language _)
    | some i =>
        dsimp only
        cases i.usable with
        | false => exact hdetect (took_unstarted l₁ language _)
        | true =>
            simp only [Bool.not_true, Bool.false_eq_true, if_false]
            cases l₁.specs.lookup runtime with
            | none => exact hdetect (took_unstarted l₁ language _)
            | some spec => exact hdetect (took_runExternal l₁ i spec language files options signal)

/-- The result of what a launch comes to. -/
def resultOf (language : String) : Except LaunchError TaskResult → TaskResult
  | .ok r => r
  | .error e => .failed language e.message e.kind

/-- The last entry of a launch: a failure is booked, unless the runtime is not there. -/
def lastEntry : Except LaunchError TaskResult → LaunchStats
  | .ok _ => {}
  | .error e => if e.isBooked then { failed := 1 } else {}

@[simp]
theorem lastEntry_ok (r : TaskResult) : lastEntry (.ok r) = {} :=
  rfl

/-- A failure enters the books if it is one that is booked. -/
theorem lastEntry_error (e : LaunchError) :
    lastEntry (.error e) = { failed := e.isBooked.toNat } := by
  simp only [lastEntry]
  cases e.isBooked <;> rfl

/-- The last entry is not about a process that was spawned. -/
theorem spawned_lastEntry (done : Except LaunchError TaskResult) :
    (lastEntry done).spawned = 0 := by
  cases done <;> simp [lastEntry_error]

/-- The last entry is not about a retry. -/
theorem retries_lastEntry (done : Except LaunchError TaskResult) :
    (lastEntry done).retries = 0 := by
  cases done <;> simp [lastEntry_error]

/-- A launch on an external runtime takes a course, and its failure is booked in the end. -/
theorem exists_course_launch (l : Launcher) {runtime : String} (h : isNative runtime = false)
    (language : String) (files : List String) (options : List (String × Json)) (signal : Signal) :
    (l.launch runtime language files options signal).result =
        resultOf language (l.launchExternal runtime language files options signal).1 ∧
      (l.launch runtime language files options signal).launcher.live = l.live ∧
      ∃ attempts entries,
        Course l.machine language attempts entries
          (l.launchExternal runtime language files options signal).1 ∧
        Did l attempts
          (entries.plus (lastEntry (l.launchExternal runtime language files options signal).1))
          (l.launch runtime language files options signal).launcher := by
  have htook := took_launchExternal l runtime language files options signal
  unfold launch
  simp only [h, Bool.false_eq_true, if_false]
  generalize l.launchExternal runtime language files options signal = done at htook ⊢
  rcases done with ⟨e | r, signal', l'⟩
  · rcases htook with ⟨hlive, attempts, entries, hcourse, hdid⟩
    simp only [settle, lastEntry]
    cases e.isBooked with
    | true =>
        have hbook : Did l' 0 { failed := 1 }
            (l'.book fun s => { s with failed := s.failed + 1 }) := .book l' rfl
        exact ⟨rfl, hlive, attempts, entries, hcourse, hdid.trans hbook⟩
    | false => exact ⟨rfl, hlive, attempts, entries, hcourse, hdid⟩
  · rcases htook with ⟨hlive, attempts, entries, hcourse, hdid⟩
    exact ⟨rfl, hlive, attempts, entries, hcourse, hdid⟩

end Launcher
end CrossAudit
