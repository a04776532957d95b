import CrossAudit.Entity.Extraction
import CrossAudit.Proofs.Entity.IdPool
import CrossAudit.Wire.Task

/-!
# The names of entities

A name is cut at its colons.  Its first part is the language, and if the path of the file has no
colon its third part is the path, whatever number was put behind it.  A stretch of naming hands out
names that were free, each once, and what it hands out in a file depends on the names of that file
only.

Main results:

- Theorems `marks_zero_append`, `marks_two_baseName`: the parts of a name that are known.
- Theorem `exists_handed_ofFile`, `exists_handed_ofFiles`: the entities of files get names that were
  free, each once.
- Theorem `ofFile_congr`: the entities of a file depend on the names in use for it only.
-/

namespace CrossAudit
namespace IdPool

/-! ## The parts of a name -/

/-- A part of a name, which is cut at its colons. -/
def part (i : Nat) (id : String) : Option (List Char) :=
  (id.toList.splitOn ':')[i]?

/-- A base has a given part, whatever is put behind it. -/
def Marks (i : Nat) (piece base : String) : Prop :=
  ∀ tail, part i (base ++ tail) = some piece.toList

variable {i : Nat} {piece base : String} {p q : IdPool}

/-- What stands before a first colon is the first part. -/
theorem marks_zero_append {language : String} (h : ':' ∉ language.toList) (rest : String) :
    Marks 0 language (language ++ ":" ++ rest) := by
  intro tail
  simp [part, List.splitOn_append_cons_self_of_not_mem h]

/-- The base of a name starts with the language. -/
theorem marks_zero_baseName {language : String} (h : ':' ∉ language.toList)
    (kind file name : String) (line col : Int) :
    Marks 0 language (baseName language kind file name line col) := by
  intro tail
  simp only [part, baseName, String.toList_append, List.append_assoc, toString]
  simp [List.splitOn_append_cons_self_of_not_mem h]

/-- The path of a file is the third part of its base names. -/
theorem marks_two_baseName {language kind file : String} (hlanguage : ':' ∉ language.toList)
    (hkind : ':' ∉ kind.toList) (hfile : ':' ∉ file.toList) (name : String) (line col : Int) :
    Marks 2 file (baseName language kind file name line col) := by
  intro tail
  simp only [part, baseName, String.toList_append, List.append_assoc, toString]
  simp [List.splitOn_append_cons_self_of_not_mem hlanguage,
    List.splitOn_append_cons_self_of_not_mem hkind, List.splitOn_append_cons_self_of_not_mem hfile]

/-- A base has the part that it is marked with. -/
theorem Marks.part_base (h : Marks i piece base) : part i base = some piece.toList := by
  simpa using h ""

/-- A number behind a base does not change the part that it is marked with. -/
theorem Marks.part_numbered (h : Marks i piece base) (n : Nat) :
    part i (numbered base n) = some piece.toList := by
  simpa [IdPool.numbered, String.append_assoc] using h ("#" ++ toString n)

/-- A name that is handed out has the known part of its base. -/
theorem Marks.part_next (h : Marks i piece base) (pool : IdPool) :
    part i (pool.next base) = some piece.toList := by
  rcases next_eq_or pool base with hnext | ⟨n, hnext⟩
  · rw [hnext]
    exact h.part_base
  · rw [hnext]
    exact h.part_numbered n

/-! ## Pools that agree -/

/-- Two pools have the same names in use among those with a given part. -/
def Agree (i : Nat) (piece : String) (p q : IdPool) : Prop :=
  ∀ id, part i id = some piece.toList → (id ∈ p.used ↔ id ∈ q.used)

/-- Pools that agree on a part offer the same name for a base that is marked with it. -/
theorem Agree.next_eq (h : Agree i piece p q) (hbase : Marks i piece base) :
    p.next base = q.next base :=
  next_congr (h base hbase.part_base) fun n => h (numbered base n) (hbase.part_numbered n)

/-- Pools still agree after the same base was claimed in both. -/
theorem Agree.claim (h : Agree i piece p q) (hbase : Marks i piece base) :
    Agree i piece (p.claim base).2 (q.claim base).2 := by
  intro id hid
  simp only [IdPool.claim, List.mem_cons, h.next_eq hbase, h id hid]

/-! ## What is handed out between two pools -/

/-- Some names are handed out one after the other: they were free, and each of them was handed out
once. -/
structure Handed (pool : IdPool) (ids : List String) (after : IdPool) : Prop where
  used_eq : after.used = ids.reverse ++ pool.used
  nodup : ids.Nodup
  free : ∀ id ∈ ids, id ∉ pool.used

namespace Handed

variable {pool mid after : IdPool} {ids more : List String}

/-- Between a pool and itself nothing is handed out. -/
theorem nil (pool : IdPool) : Handed pool [] pool :=
  ⟨rfl, List.nodup_nil, by simp⟩

/-- A name is handed out before others. -/
theorem cons (h : Handed (pool.claim base).2 ids after) :
    Handed pool (pool.next base :: ids) after := by
  have hused : (pool.claim base).2.used = pool.next base :: pool.used := rfl
  have hfree : ∀ id ∈ ids, id ≠ pool.next base ∧ id ∉ pool.used := by
    intro id hid
    simpa [hused] using h.free id hid
  refine ⟨?_, ?_, ?_⟩
  · rw [h.used_eq, hused]
    simp
  · exact List.nodup_cons.2 ⟨fun hmem => (hfree _ hmem).1 rfl, h.nodup⟩
  · intro id hid
    rcases List.mem_cons.1 hid with rfl | hid
    · exact next_not_mem pool base
    · exact (hfree id hid).2

/-- What is handed out in two rounds is handed out in one. -/
theorem trans (h : Handed pool ids mid) (h' : Handed mid more after) :
    Handed pool (ids ++ more) after := by
  have hfree : ∀ id ∈ more, id ∉ ids ∧ id ∉ pool.used := by
    intro id hid
    simpa [h.used_eq] using h'.free id hid
  refine ⟨?_, ?_, ?_⟩
  · rw [h'.used_eq, h.used_eq]
    simp
  · exact h.nodup.append h'.nodup fun id hid hmore => (hfree id hmore).1 hid
  · intro id hid
    rcases List.mem_append.1 hid with hid | hid
    · exact h.free id hid
    · exact (hfree id hid).2

end Handed
end IdPool

namespace Extraction

open IdPool Syntax

variable {w : Workspace} {r : Registry} {a : Adapter} {d : Document}

/-! ## The drafts of a file -/

/-- The base name of a draft. -/
def Draft.base (d : Draft) : String :=
  baseName d.entity.language d.kind d.entity.file d.entity.name d.line d.col

/-- The kinds of drafts. -/
def draftKinds : List String :=
  ["module", "function", "schema", "class", "interface", "endpoint"]

/-- Drafts say where they come from, and of which kind they are. -/
theorem origin_of_mem_drafts {x : Draft} (h : x ∈ drafts a d) :
    x.entity.language = d.language ∧ x.entity.file = d.path ∧ x.kind ∈ draftKinds := by
  simp only [drafts, List.cons_append, List.mem_cons, List.mem_append, List.mem_map] at h
  rcases h with rfl | ((⟨f, _, rfl⟩ | ⟨c, _, rfl⟩) | ⟨i, _, rfl⟩) | ⟨e, _, rfl⟩
  · exact ⟨rfl, rfl, by simp [moduleDraft, draftKinds]⟩
  · exact ⟨rfl, rfl, by simp [functionDraft, draftKinds]⟩
  · refine ⟨rfl, rfl, ?_⟩
    by_cases hschema : isSchemaClass c.bases c.decorators = true <;>
      simp [classDraft, draftKinds, hschema]
  · exact ⟨rfl, rfl, by simp [interfaceDraft, draftKinds]⟩
  · exact ⟨rfl, rfl, by simp [endpointDraft, draftKinds]⟩

/-- The name of a language has no colon. -/
theorem colon_not_mem_language (a : Adapter) : ':' ∉ a.language.toList := by
  cases a <;> decide

/-- The kinds of entities have no colon. -/
theorem colon_not_mem_draftKinds : ∀ kind ∈ draftKinds, ':' ∉ kind.toList := by
  decide

/-- A document that was read has the language of its adapter and its own path. -/
theorem parse_language (w : Workspace) (a : Adapter) (path : String) (content : ByteArray) :
    (w.parse a path content).language = a.language := by
  unfold Workspace.parse
  split <;> rfl

/-- A document keeps the path of its file. -/
theorem parse_path (w : Workspace) (a : Adapter) (path : String) (content : ByteArray) :
    (w.parse a path content).path = path := by
  unfold Workspace.parse
  split <;> rfl

/-! ## Naming drafts -/

/-- Naming hands out one name for each draft. -/
theorem handed_name (pool : IdPool) (ds : List Draft) :
    Handed pool ((name pool ds).1.map (·.id)) (name pool ds).2 := by
  induction ds generalizing pool with
  | nil => exact .nil pool
  | cons d ds ih => exact (ih (pool.claim d.base).2).cons

/-- The names of drafts have the known part of the base names. -/
theorem part_of_mem_name {i : Nat} {piece : String} {ds : List Draft} {e : Entity} {pool : IdPool}
    (hds : ∀ x ∈ ds, Marks i piece x.base) (he : e ∈ (name pool ds).1) :
    part i e.id = some piece.toList := by
  induction ds generalizing pool with
  | nil => cases he
  | cons x ds ih =>
      have hhead := hds x List.mem_cons_self
      rcases List.mem_cons.1 he with rfl | he
      · exact hhead.part_next pool
      · exact ih (fun y hy => hds y (List.mem_cons_of_mem x hy)) he

/-- Pools that agree on the names of drafts name them alike. -/
theorem name_congr {i : Nat} {piece : String} {ds : List Draft} {p q : IdPool}
    (hds : ∀ x ∈ ds, Marks i piece x.base) (h : Agree i piece p q) :
    (name p ds).1 = (name q ds).1 := by
  induction ds generalizing p q with
  | nil => rfl
  | cons x ds ih =>
      have hhead := hds x List.mem_cons_self
      have htail := ih (fun y hy => hds y (List.mem_cons_of_mem x hy)) (h.claim hhead)
      have hname : ∀ pool : IdPool, (name pool (x :: ds)).1 =
          { x.entity with id := pool.next x.base } :: (name (pool.claim x.base).2 ds).1 :=
        fun _ => rfl
      rw [hname, hname, h.next_eq hhead, htail]

/-! ## Requests -/

/-- Attaching requests leaves the names alone. -/
theorem ids_attach (entities : List Entity) (call : ApiCall) :
    (attach entities call).map (·.id) = entities.map (·.id) := by
  simp only [attach, List.map_map]
  apply List.map_congr_left
  intro e _
  simp only [Function.comp_apply]
  split <;> rfl

/-- Attaching calls changes no name. -/
theorem ids_foldl_attach (entities : List Entity) (calls : List ApiCall) :
    (calls.foldl attach entities).map (·.id) = entities.map (·.id) := by
  induction calls generalizing entities with
  | nil => rfl
  | cons call calls ih => rw [List.foldl_cons, ih, ids_attach]

/-! ## Files -/

/-- The base names of a document that was read tell its language, and its path if that has no
colon. -/
theorem marks_of_mem_drafts {path : String} {content : ByteArray} {x : Draft}
    (h : x ∈ drafts a (w.parse a path content)) :
    Marks 0 a.language x.base ∧ (':' ∉ path.toList → Marks 2 path x.base) := by
  rcases origin_of_mem_drafts h with ⟨hlanguage, hfile, hkind⟩
  rw [parse_language] at hlanguage
  rw [parse_path] at hfile
  rw [Draft.base, hlanguage, hfile]
  refine ⟨marks_zero_baseName (colon_not_mem_language a) _ _ _ _ _, fun hpath => ?_⟩
  exact marks_two_baseName (colon_not_mem_language a) (colon_not_mem_draftKinds _ hkind) hpath _ _ _

/-- A file that is read yields the entities of its document, or an error in their place; the names
of its drafts are taken in either case. -/
theorem ofFile_of_read {file : String} {content : ByteArray}
    (h : w.read (normalPath file) = .ok content) (pool : IdPool) :
    ofFile w a file pool =
      (match a.apiCalls (w.parse a (normalPath file) content) with
        | .ok calls =>
          { entities :=
              calls.foldl attach (name pool (drafts a (w.parse a (normalPath file) content))).1
            errors := parseErrors a (w.parse a (normalPath file) content)
            processed := 1 }
        | .error fault =>
          { errors := parseErrors a (w.parse a (normalPath file) content) ++
              [fileError a (normalPath file) "analysis" ("Extraction error: " ++ fault.message)] },
        (name pool (drafts a (w.parse a (normalPath file) content))).2) := by
  unfold ofFile
  simp only [h, ofDocument]
  cases a.apiCalls (w.parse a (normalPath file) content) <;> rfl

/-- A file that cannot be read yields an error and takes no names. -/
theorem ofFile_of_unreadable {file : String} {e : FileError}
    (h : w.read (normalPath file) = .error e) (pool : IdPool) :
    ofFile w a file pool =
      ({ errors := [fileError a (normalPath file) "read" ("Read error: " ++ e.message)] },
        pool) := by
  unfold ofFile
  simp only [h]

/-- A file gets names that were free, each once; they tell its language, and its path if that has no
colon. -/
theorem exists_handed_ofFile (w : Workspace) (a : Adapter) (file : String) (pool : IdPool) :
    ∃ ids, Handed pool ids (ofFile w a file pool).2 ∧
      ((ofFile w a file pool).1.entities.map (·.id)).Sublist ids ∧
      ∀ id ∈ ids, part 0 id = some a.language.toList ∧
        (':' ∉ (normalPath file).toList → part 2 id = some (normalPath file).toList) := by
  cases hread : w.read (normalPath file) with
  | error e =>
      rw [ofFile_of_unreadable hread]
      exact ⟨[], .nil pool, List.Sublist.refl _, by simp⟩
  | ok content =>
      rw [ofFile_of_read hread]
      refine ⟨_, handed_name pool _, ?_, ?_⟩
      · cases a.apiCalls (w.parse a (normalPath file) content) with
        | error fault => exact List.nil_sublist _
        | ok calls =>
            simp only [ids_foldl_attach]
            exact List.Sublist.refl _
      · intro id hid
        rcases List.mem_map.1 hid with ⟨e, he, rfl⟩
        exact ⟨part_of_mem_name (fun x hx => (marks_of_mem_drafts hx).1) he,
          fun hpath => part_of_mem_name (fun x hx => (marks_of_mem_drafts hx).2 hpath) he⟩

/-- The entities of a file depend on the names in use for it only. -/
theorem ofFile_congr {file : String} {p q : IdPool} (hpath : ':' ∉ (normalPath file).toList)
    (h : Agree 2 (normalPath file) p q) : (ofFile w a file p).1 = (ofFile w a file q).1 := by
  cases hread : w.read (normalPath file) with
  | error e => rw [ofFile_of_unreadable hread, ofFile_of_unreadable hread]
  | ok content =>
      have hmarks : ∀ x ∈ drafts a (w.parse a (normalPath file) content),
          Marks 2 (normalPath file) x.base :=
        fun x hx => (marks_of_mem_drafts hx).2 hpath
      simp only [ofFile_of_read hread, name_congr hmarks h]

/-- An extraction that refuses no path returns what the files yield. -/
theorem eq_run_of_attempt {files : List String} {y : Yield} (h : attempt w r files = .ok y) :
    y = run w r files := by
  unfold attempt at h
  split at h
  · cases h
  · exact (Except.ok.inj h).symm

/-- Files get names that were free, each once, and each tells the language of some of the files. -/
theorem exists_handed_ofFiles (w : Workspace) (r : Registry) (files : List String)
    (pool : IdPool) :
    ∃ ids, Handed pool ids (ofFiles w r files pool).2 ∧
      ((ofFiles w r files pool).1.entities.map (·.id)).Sublist ids ∧
      ∀ id ∈ ids, ∃ file ∈ files, ∃ a, r.adapterFor? file = some a ∧
        part 0 id = some a.language.toList := by
  induction files generalizing pool with
  | nil => exact ⟨[], .nil pool, List.Sublist.refl _, by simp⟩
  | cons file rest ih =>
      cases hadapter : r.adapterFor? file with
      | none =>
          rcases ih pool with ⟨ids, hhanded, hsub, hlanguage⟩
          simp only [ofFiles, hadapter]
          refine ⟨ids, hhanded, hsub, fun id hid => ?_⟩
          rcases hlanguage id hid with ⟨f, hf, hrest⟩
          exact ⟨f, List.mem_cons_of_mem file hf, hrest⟩
      | some a =>
          rcases exists_handed_ofFile w a file pool with ⟨here, hhanded, hsub, hparts⟩
          rcases ih (ofFile w a file pool).2 with ⟨others, hhanded', hsub', hlanguage⟩
          simp only [ofFiles, hadapter]
          refine ⟨here ++ others, hhanded.trans hhanded', ?_, fun id hid => ?_⟩
          · simpa [Yield.append] using hsub.append hsub'
          · rcases List.mem_append.1 hid with hid | hid
            · exact ⟨file, List.mem_cons_self, a, hadapter, (hparts id hid).1⟩
            · rcases hlanguage id hid with ⟨f, hf, hrest⟩
              exact ⟨f, List.mem_cons_of_mem file hf, hrest⟩

end Extraction
end CrossAudit
