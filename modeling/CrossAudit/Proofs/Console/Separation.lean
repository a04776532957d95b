import CrossAudit.Console.Session
import CrossAudit.Proofs.Assoc

/-!
# Which indexes a command changes

The index of a project lies in a directory that is named after the last name of the project's
resolved path.  A command changes the index in at most one such directory, by at most one update, so
projects of different names do not see each other's runs; projects of one name share one index,
wherever they lie.

Main results:

- Theorem `confined_perform`: a command changes at most the index that it was asked to update.
- Theorem `indexOf_after`: what commands leave of the index of a project that none of them names.
- Theorem `indexes_apart_iff_names`: projects are kept apart by their names, and by nothing else.
-/

namespace CrossAudit

namespace Audit

/-! ## What a run does to an archive -/

section Archive

variable {σ : Type}

/-- An archive after at most one update that it took. -/
def Archive.Extends (a b : Archive σ) : Prop :=
  b.state = a.state ∨ ∃ entities references, a.write a.state entities references = .ok b.state

/-- An archive extends itself. -/
theorem Archive.Extends.refl (a : Archive σ) : a.Extends a :=
  Or.inl rfl

/-- The phase of the index extends the archive, if there is one. -/
theorem extends_indexPhase (archive : Option (Archive σ)) (r : Report)
    (references : List Reference) :
    Option.Rel Archive.Extends archive (indexPhase archive r references).2 := by
  cases archive with
  | none => exact .none
  | some a =>
      simp only [indexPhase]
      cases hwrite : a.write a.state r.entities references with
      | error reason => exact .some (Archive.Extends.refl a)
      | ok state => exact .some (Or.inr ⟨r.entities, references, hwrite⟩)

/-- An archive that may be missing extends itself. -/
theorem extends_refl (archive : Option (Archive σ)) :
    Option.Rel Archive.Extends archive archive := by
  cases archive with
  | none => exact .none
  | some a => exact .some (Archive.Extends.refl a)

/-- All phases together extend the archive, if there is one. -/
theorem extends_phases (o : Options) (archive : Option (Archive σ)) (r : Report) :
    Option.Rel Archive.Extends archive (phases o archive r).2 := by
  unfold phases
  cases o.index with
  | false => exact extends_refl archive
  | true => exact extends_indexPhase archive _ _

/-- A run updates its archive at most once, and only at its end. -/
theorem extends_runAfter (o : Options) (found : Except Discovery.Failure (List String))
    (signal : Signal) (archive : Option (Archive σ)) (l : Launcher) :
    Option.Rel Archive.Extends archive (runAfter o found signal archive l).archive := by
  unfold runAfter
  split
  · exact extends_refl archive
  · unfold runOn
    dsimp only
    split
    · exact extends_refl archive
    · split
      · exact extends_refl archive
      · exact extends_phases o archive _

end Archive

end Audit

namespace Console
namespace Session

/-! ## Sessions that differ in one index -/

/-- The index of a project. -/
def indexOf (s : Session) (root : String) : Index :=
  s.indexAt (s.indexDirectory root)

/-- A later session that lies in the same directories, and has the same indexes outside of one
directory, in which an index may have taken one update. -/
structure Confined (touched : Option String) (s t : Session) : Prop where
  base : t.base = s.base
  directory : t.directory = s.directory
  elsewhere : ∀ place, touched ≠ some place → t.indexAt place = s.indexAt place
  update : ∀ place, t.indexAt place = s.indexAt place ∨
    ∃ entities references, (s.indexAt place).update entities references = .ok (t.indexAt place)

/-- A session that does nothing is confined to any place. -/
theorem Confined.refl (touched : Option String) (s : Session) : Confined touched s s :=
  ⟨rfl, rfl, fun _ _ => rfl, fun _ => Or.inl rfl⟩

/-- Only the indexes and the directories of a session matter. -/
theorem Confined.of_eq {touched : Option String} {s t u : Session} (h : Confined touched s t)
    (hbase : u.base = t.base) (hdirectory : u.directory = t.directory)
    (hindexes : u.indexes = t.indexes) : Confined touched s u := by
  have hat : ∀ place, u.indexAt place = t.indexAt place := by
    intro place
    rw [indexAt, indexAt, hindexes]
  refine ⟨hbase.trans h.base, hdirectory.trans h.directory, ?_, ?_⟩
  · intro place hplace
    rw [hat, h.elsewhere place hplace]
  · intro place
    rw [hat]
    exact h.update place

/-- What a confined session does changes no name of an index. -/
theorem Confined.indexName_eq {touched : Option String} {s t : Session} (h : Confined touched s t)
    (root : String) : t.indexName root = s.indexName root := by
  unfold indexName directoryName resolve
  rw [h.directory]

/-- What a confined session does moves no index to another directory. -/
theorem Confined.indexDirectory_eq {touched : Option String} {s t : Session}
    (h : Confined touched s t) (root : String) : t.indexDirectory root = s.indexDirectory root := by
  rw [indexDirectory, indexDirectory, h.base, h.indexName_eq]

/-- Resolving dots brings in no new name. -/
theorem mem_of_mem_resolveFrom {c : String} {done names : List String}
    (h : c ∈ Workspace.resolveFrom done names) : c ∈ done ∨ c ∈ names := by
  fun_induction Workspace.resolveFrom done names with
  | case1 done => exact Or.inl (List.mem_reverse.1 h)
  | case2 done rest ih =>
      rcases ih h with hdone | hrest
      · exact Or.inl (List.mem_of_mem_tail hdone)
      · exact Or.inr (List.mem_cons_of_mem _ hrest)
  | case3 done name rest _ ih =>
      rcases ih h with hdone | hrest
      · rcases List.mem_cons.1 hdone with rfl | hdone
        · exact Or.inr List.mem_cons_self
        · exact Or.inl hdone
      · exact Or.inr (List.mem_cons_of_mem _ hrest)

/-- The names in a path are not empty. -/
theorem ne_empty_of_mem_ofString {c path : String}
    (h : c ∈ (PathName.ofString path).components) : c ≠ "" := by
  intro hc
  simp [PathName.ofString, hc] at h

/-- The parts of a resolved path are never empty. -/
theorem ne_empty_of_mem_resolve {s : Session} {c path : String} (h : c ∈ s.resolve path) :
    c ≠ "" := by
  have hmem : c ∈ ((PathName.ofString s.directory).join (PathName.ofString path)).components :=
    (mem_of_mem_resolveFrom h).resolve_left (List.not_mem_nil)
  unfold PathName.join at hmem
  split at hmem
  · rcases List.mem_append.1 hmem with hmem | hmem
    · exact ne_empty_of_mem_ofString hmem
    · exact ne_empty_of_mem_ofString hmem
  · exact ne_empty_of_mem_ofString hmem

/-- An index goes by the last name of the resolved path of its project. -/
theorem indexName_eq (s : Session) (root : String) :
    s.indexName root = (s.resolve root).getLast?.getD "root" := by
  unfold indexName directoryName
  cases hlast : (s.resolve root).getLast? with
  | none => rfl
  | some name =>
      have hname : name ≠ "" := ne_empty_of_mem_resolve (List.mem_of_getLast? hlast)
      simp [hname]

/-- Directories of indexes differ exactly if the names of the projects do. -/
theorem indexDirectory_eq_iff (s : Session) (p q : String) :
    s.indexDirectory p = s.indexDirectory q ↔ s.indexName p = s.indexName q := by
  unfold indexDirectory
  constructor
  · intro h
    exact (String.append_right_inj _).1 h
  · exact fun h => by rw [h]

/-! ## What each part of a command leaves -/

section Parts

variable {touched : Option String} {s t : Session}

/-- Writing a file leaves a session confined. -/
theorem Confined.write (h : Confined touched s t) {path text : String} {u : Session}
    (hwrite : t.write path text = .ok u) : Confined touched s u := by
  unfold Session.write at hwrite
  cases hplace : t.launcher.workspace.write path text with
  | error f => rw [hplace] at hwrite; cases hwrite
  | ok w =>
      rw [hplace] at hwrite
      cases hwrite
      exact h.of_eq rfl rfl rfl

/-- Delivering a report leaves a session confined. -/
theorem Confined.deliver (h : Confined touched s t) (r : AnalyzeRequest) (report : Report) :
    Confined touched s (deliver r report t).2 := by
  unfold Session.deliver
  dsimp only
  split
  · exact h
  · split
    · exact h
    · rename_i hwrite
      exact h.write hwrite

/-- Delivering a graph leaves a session confined. -/
theorem Confined.deliverGraph (h : Confined touched s t) (r : GraphRequest) (format : String)
    (report : Report) : Confined touched s (deliverGraph r format report t).2 := by
  unfold Session.deliverGraph
  split
  · exact h
  · dsimp only
    split
    · exact h
    · rename_i hwrite
      exact h.write hwrite

end Parts

/-- Where a run keeps its index, if it keeps one. -/
def placeOf (s : Session) (root : String) (wanted : Bool) : Option String :=
  if wanted then some (s.indexDirectory root) else none

/-- What an archive takes is an update of its index. -/
theorem update_of_write {x y : Index} {entities : List Entity} {references : List Reference}
    (h : (archive x).write x entities references = .ok y) :
    x.update entities references = .ok y := by
  simp only [archive] at h
  cases hupdate : x.update entities references with
  | error refusal => rw [hupdate] at h; cases h
  | ok z => rw [hupdate] at h; cases h; rfl

/-- Keeping the index that a run leaves changes no other one. -/
theorem confined_closeIndex (s : Session) (root : String) (wanted : Bool) {t : Session}
    (ht : Confined none s t) {a : Option (Audit.Archive Index)}
    (ha : Option.Rel Audit.Archive.Extends (s.openIndex root wanted) a) :
    Confined (s.placeOf root wanted) s (t.closeIndex root a) := by
  have hsame : ∀ place, t.indexAt place = s.indexAt place :=
    fun place => ht.elsewhere place (by simp)
  cases wanted with
  | false =>
      cases ha
      exact ⟨ht.base, ht.directory, fun place _ => hsame place, fun place => Or.inl (hsame place)⟩
  | true =>
      cases ha with
      | some hab =>
          rename_i b
          have hat : ∀ place, (t.closeIndex root (some b)).indexAt place =
              if place = s.indexDirectory root then b.state else s.indexAt place := by
            intro place
            rw [← hsame, ← ht.indexDirectory_eq]
            simp only [closeIndex, indexAt, Assoc.lookup_set, beq_iff_eq]
            split <;> rfl
          refine ⟨ht.base, ht.directory, ?_, ?_⟩
          · intro place hplace
            rw [hat, if_neg fun h : place = _ => hplace (h ▸ rfl)]
          · intro place
            rw [hat]
            split
            · rename_i h
              subst h
              rcases hab with hstate | ⟨entities, references, hwrite⟩
              · exact Or.inl hstate
              · exact Or.inr ⟨entities, references, update_of_write hwrite⟩
            · exact Or.inl rfl

/-- A run of an audit touches the index that it opened, and what comes after the run none. -/
theorem confined_audit (s : Session) (o : Audit.Options)
    (found : Except Discovery.Failure (List String)) (root : String) (wanted : Bool)
    {next : Report → Session → Reply × Session}
    (hnext : ∀ {touched t} report, Confined touched s t → Confined touched s (next report t).2) :
    Confined (s.placeOf root wanted) s
      (s.audit o found (s.openIndex root wanted) root next).2 := by
  have hclosed := confined_closeIndex s root wanted
    ((Confined.refl none s).of_eq rfl rfl rfl : Confined none s (s.keep
      (Audit.runAfter o found {} (s.openIndex root wanted) s.fresh).launcher))
    (Audit.extends_runAfter o found {} (s.openIndex root wanted) s.fresh)
  unfold audit
  dsimp only
  split
  · exact hclosed
  · exact hclosed
  · exact hnext _ hclosed

/-- An analysis changes at most the index that it keeps. -/
theorem confined_analyze (s : Session) (r : AnalyzeRequest) :
    Confined (s.placeOf r.path r.index) s (s.analyze r).2 := by
  unfold analyze
  split
  · exact Confined.refl _ s
  · split
    · exact Confined.refl _ s
    · split
      · exact Confined.refl _ s
      · exact confined_audit s _ _ r.path r.index fun report h => h.deliver r report

/-- Exporting a graph changes no index. -/
theorem confined_exportGraph (s : Session) (r : GraphRequest) :
    Confined none s (s.exportGraph r).2 := by
  unfold exportGraph
  dsimp only
  split
  · exact Confined.refl _ s
  · exact confined_audit s _ _ r.path false fun report h => h.deliverGraph r _ report

/-- Listing the runtimes changes no index. -/
theorem confined_runtimes (s : Session) (json : Bool) : Confined none s (s.runtimes json).2 := by
  unfold runtimes
  split
  · split <;> exact Confined.refl none s
  · split <;> exact Confined.refl none s

/-- Changing the settings of a runtime changes no index. -/
theorem confined_setRuntime (s : Session) (r : RuntimeRequest) :
    Confined none s (s.setRuntime r).2 := by
  have hconfig : ∀ file, Confined none s { s with config := file } :=
    fun file => (Confined.refl none s).of_eq rfl rfl rfl
  unfold setRuntime
  dsimp only
  split
  · exact Confined.refl none s
  · split
    · exact Confined.refl none s
    · split
      · exact Confined.refl none s
      · split <;> exact hconfig _

/-- The checks before a command leave it as confined as it is. -/
theorem confined_checked {touched : Option String} (s : Session) (output : Option String)
    (path : String) {next : Reply × Session} (h : Confined touched s next.2) :
    Confined touched s (s.checked output path next).2 := by
  unfold checked
  split
  · exact Confined.refl touched s
  · split
    · exact h
    · exact Confined.refl touched s

/-! ## Commands -/

/-- The project whose index a command is asked to update. -/
def indexed? : Command → Option String
  | .analyze r => if r.index then some r.path else none
  | _ => none

/-- A command changes at most the index that it is asked to update. -/
theorem confined_perform (s : Session) (c : Command) :
    Confined ((indexed? c).map s.indexDirectory) s (s.perform c).2 := by
  cases c with
  | help => exact Confined.refl none s
  | version => exact Confined.refl none s
  | analyze r =>
      have hplace : (indexed? (.analyze r)).map s.indexDirectory = s.placeOf r.path r.index := by
        simp only [indexed?, placeOf]
        split <;> rfl
      rw [hplace]
      exact confined_checked s r.output r.path (confined_analyze s r)
  | runtimes json => exact confined_runtimes s json
  | setRuntime r => exact confined_setRuntime s r
  | graph r => exact confined_checked s r.output r.path (confined_exportGraph s r)

/-- The session after commands. -/
def after (s : Session) (commands : List Command) : Session :=
  commands.foldl (fun s c => (s.perform c).2) s

/-- Commands change no name of an index. -/
theorem indexName_after (s : Session) (commands : List Command) (root : String) :
    (s.after commands).indexName root = s.indexName root := by
  induction commands generalizing s with
  | nil => rfl
  | cons c rest ih => exact (ih (s.perform c).2).trans ((confined_perform s c).indexName_eq root)

/-- Commands that update the indexes of projects of other names leave the index of a project. -/
theorem indexOf_after {s : Session} {commands : List Command} {root : String}
    (h : ∀ c ∈ commands, ∀ other, indexed? c = some other → s.indexName other ≠ s.indexName root) :
    (s.after commands).indexOf root = s.indexOf root := by
  induction commands generalizing s with
  | nil => rfl
  | cons c rest ih =>
      have hstep := confined_perform s c
      have hfirst : (s.perform c).2.indexOf root = s.indexOf root := by
        rw [indexOf, indexOf, hstep.indexDirectory_eq]
        refine hstep.elsewhere _ ?_
        intro hplace
        rcases Option.map_eq_some_iff.1 hplace with ⟨other, hother, heq⟩
        exact h c List.mem_cons_self other hother ((indexDirectory_eq_iff s other root).1 heq)
      have hrest : ((s.perform c).2.after rest).indexOf root = (s.perform c).2.indexOf root := by
        refine ih fun c' hc' other hother => ?_
        rw [hstep.indexName_eq, hstep.indexName_eq]
        exact h c' (List.mem_cons_of_mem c hc') other hother
      exact hrest.trans hfirst

/-- The index of a project stays as it is or takes one update. -/
theorem Confined.indexOf_update {touched : Option String} {s t : Session}
    (h : Confined touched s t) (root : String) :
    t.indexOf root = s.indexOf root ∨ ∃ entities references,
      (s.indexOf root).update entities references = .ok (t.indexOf root) := by
  rw [indexOf, indexOf, h.indexDirectory_eq]
  exact h.update _

/-- Two projects are kept apart exactly if their resolved paths differ in the last name: then
commands that update the index of one, whenever they are run, leave that of the other; else the two
have one index at all times, wherever they lie, into which each command puts at most one update. -/
theorem indexes_apart_iff_names (s : Session) (p q : String) :
    (s.indexDirectory p ≠ s.indexDirectory q ↔
      (s.resolve p).getLast?.getD "root" ≠ (s.resolve q).getLast?.getD "root") ∧
    (s.indexDirectory p ≠ s.indexDirectory q → ∀ before commands : List Command,
      (∀ c ∈ commands, indexed? c = none ∨ indexed? c = some p) →
        ((s.after before).after commands).indexOf q = (s.after before).indexOf q) ∧
    (s.indexDirectory p = s.indexDirectory q → ∀ commands : List Command,
      (s.after commands).indexOf p = (s.after commands).indexOf q) ∧
    ∀ (before : List Command) (c : Command),
      ((s.after before).perform c).2.indexOf q = (s.after before).indexOf q ∨
        ∃ entities references, ((s.after before).indexOf q).update entities references =
          .ok (((s.after before).perform c).2.indexOf q) := by
  rw [Ne, indexDirectory_eq_iff, ← indexName_eq, ← indexName_eq]
  refine ⟨Iff.rfl, ?_, ?_, ?_⟩
  · intro hname before commands honly
    refine indexOf_after fun c hc other hother => ?_
    have hp : other = p := by
      rcases honly c hc with hnone | hp
      · rw [hnone] at hother
        cases hother
      · exact Option.some.inj (hother.symm.trans hp)
    rw [hp, indexName_after, indexName_after]
    exact hname
  · intro hname commands
    have hplace : (s.after commands).indexDirectory p = (s.after commands).indexDirectory q := by
      rw [indexDirectory_eq_iff, indexName_after, indexName_after]
      exact hname
    rw [indexOf, indexOf, hplace]
  · exact fun before c => (confined_perform _ c).indexOf_update q

/-- A session on two projects of one name, and one that lies around the second of them. -/
def twoShops : Session :=
  { directory := "/work"
    launcher :=
      { workspace :=
          { entries := [(["a", "shop", "x.py"], .file "".toUTF8),
              (["b", "shop", "y.py"], .file "".toUTF8)]
            trees := [("a/shop/x.py",
              .mk { kind := "module", first := 0, last := 0, location := default } [])] } } }

/-- The analysis of a shop puts its module into the index of the other shop, but not into that of
the project around it. -/
theorem indexes_apart_iff_names_twoShops :
    let commands := [Command.analyze { path := "a/shop", index := true }]
    twoShops.resolve "a/shop" ≠ twoShops.resolve "b/shop" ∧
      (twoShops.indexOf "b/shop").counts = (0, 0) ∧
      ((twoShops.after commands).indexOf "b/shop").counts = (1, 0) ∧
      (twoShops.after commands).indexOf "a/shop" = (twoShops.after commands).indexOf "b/shop" ∧
      (twoShops.after commands).indexOf "b" = twoShops.indexOf "b" :=
  ⟨by decide +kernel, by decide +kernel, by decide +kernel,
    (indexes_apart_iff_names twoShops "a/shop" "b/shop").2.2.1 (by decide +kernel) _,
    (indexes_apart_iff_names twoShops "a/shop" "b").2.1 (by decide +kernel) [] _ (by decide)⟩

end Session
end Console
end CrossAudit
