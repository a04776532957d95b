import CrossAudit.Discovery
import CrossAudit.Proofs.Repetition
import CrossAudit.Proofs.Text.Pieces
import Mathlib.Data.List.Infix
import Mathlib.Data.List.Lex
import Mathlib.Data.String.Basic

/-!
# What discovery finds

Discovery walks a tree of directories.  It goes by the name of a directory before it enters it, and
by the patterns only once it has a file; so what lies below a directory that is left out is never
looked at.  Here what the walk finds is told without the walk: by the file alone and the names on
the way to it.

Main results:

- Theorem `PathName.components_ofString_toString`: the spelling of a path keeps its components.
- Theorem `placeLe_iff`: the order of the paths is the lexicographic one.
- Theorem `mem_walk_iff`: one step of the walk.
- Theorem `mem_walk_of_tree`: what the whole walk finds.
- Theorem `nodup_walk`: the walk finds nothing twice.
- Theorem `find_admissible`: discovery finds the admissible files, in order.
-/

namespace CrossAudit

/-! ## The components of a path -/

namespace Chars

variable {sep : Char} {cs piece : List Char}

/-- The pieces that a text is split into lack the separator. -/
theorem notMem_of_mem_splitOn (h : piece ∈ cs.splitOn sep) : sep ∉ piece := by
  induction cs generalizing piece with
  | nil =>
      rw [List.splitOn_nil, List.mem_singleton] at h
      simp [h]
  | cons c cs ih =>
      rw [List.splitOn_cons_eq_if_modifyHead] at h
      split at h
      · rcases List.mem_cons.1 h with rfl | h
        · exact List.not_mem_nil
        · exact ih h
      · rename_i hc
        obtain ⟨first, rest, hsplit⟩ := List.exists_cons_of_ne_nil (List.splitOn_ne_nil sep cs)
        rw [hsplit, List.modifyHead_cons] at h
        rcases List.mem_cons.1 h with rfl | h
        · have hfirst : sep ∉ first := ih (by simp [hsplit])
          simp only [beq_iff_eq] at hc
          simp [hfirst, Ne.symm hc]
        · exact ih (by simp [hsplit, h])

/-- Separators in front of a text cut off empty pieces. -/
theorem splitOn_replicate_append (k : Nat) :
    (List.replicate k sep ++ cs).splitOn sep = List.replicate k [] ++ cs.splitOn sep := by
  induction k with
  | zero => rfl
  | succ k ih => simp [List.replicate_succ, List.splitOn_cons_eq_if_modifyHead, ih]

end Chars

namespace PathName

/-- A name that the spelling of a path keeps: it is neither empty nor a single dot, and holds no
slash. -/
def IsName (name : String) : Prop :=
  name ≠ "" ∧ name ≠ "." ∧ '/' ∉ name.toList

instance : DecidablePred IsName := fun _ => inferInstanceAs (Decidable (_ ∧ _ ∧ _))

/-- The components of a path are names. -/
theorem isName_of_mem_components {s name : String} (h : name ∈ (ofString s).components) :
    IsName name := by
  simp only [ofString, Text.splitOn, List.mem_filter, List.mem_map, Bool.and_eq_true,
    bne_iff_ne] at h
  obtain ⟨⟨piece, hpiece, rfl⟩, hne, hdot⟩ := h
  exact ⟨hne, hdot, by rw [String.toList_ofList]; exact Chars.notMem_of_mem_splitOn hpiece⟩

/-- The root of a path is some number of slashes. -/
theorem exists_root_ofString (s : String) :
    ∃ k, (ofString s).root.toList = List.replicate k '/' := by
  simp only [ofString, rootOf]
  split
  · exact ⟨0, rfl⟩
  · split
    · exact ⟨2, rfl⟩
    · exact ⟨1, rfl⟩

/-- The spelling of a path keeps its components. -/
theorem components_ofString_toString {p : PathName}
    (hroot : ∃ k, p.root.toList = List.replicate k '/') (hnames : ∀ c ∈ p.components, IsName c) :
    (ofString p.toString).components = p.components := by
  have hkeep : ∀ cs : List String, (∀ c ∈ cs, IsName c) →
      cs.filter (fun part => part != "" && part != ".") = cs := by
    intro cs hcs
    refine List.filter_eq_self.2 fun c hc => ?_
    simp [(hcs c hc).1, (hcs c hc).2.1]
  obtain ⟨k, hk⟩ := hroot
  unfold toString
  split
  · rename_i hempty
    rw [Bool.and_eq_true, List.isEmpty_iff] at hempty
    rw [hempty.2]
    decide
  · have hsplit : ((p.root ++ Text.join "/" p.components).toList.splitOn '/').map String.ofList =
        List.replicate k "" ++
          ((['/'].intercalate (p.components.map String.toList)).splitOn '/').map String.ofList := by
      rw [String.toList_append, hk, Chars.splitOn_replicate_append, List.map_append, Text.join,
        String.toList_intercalate]
      simp
    simp only [ofString, Text.splitOn, hsplit, List.filter_append]
    have hfront : (List.replicate k "").filter (fun part => part != "" && part != ".") = [] := by
      simp
    rw [hfront, List.nil_append]
    by_cases hne : p.components = []
    · simp [hne]
    · have hslash : ∀ cs ∈ p.components.map String.toList, '/' ∉ cs := by
        intro cs hcs
        obtain ⟨c, hc, rfl⟩ := List.mem_map.1 hcs
        exact (hnames c hc).2.2
      rw [List.splitOn_intercalate '/' hslash (by simpa using hne), List.map_map]
      simpa using hkeep _ hnames

end PathName

namespace Discovery

/-! ## The order of paths -/

/-- One path comes before another: it ends first, or where they first differ its name is the smaller
one in the order of characters. -/
def Earlier (as bs : List String) : Prop :=
  List.Lex (· < ·) as bs

/-- Places are compared from the outermost name to the innermost. -/
theorem placeLe_iff {as bs : List String} : placeLe as bs = true ↔ as = bs ∨ Earlier as bs := by
  unfold Earlier
  induction as generalizing bs with
  | nil => cases bs <;> simp [placeLe]
  | cons a as ih =>
      cases bs with
      | nil => simp [placeLe]
      | cons b bs =>
          rw [placeLe, List.cons_lex_cons_iff]
          by_cases hab : a = b
          · subst hab
            have hirrefl : ¬ a < a := String.lt_irrefl a
            simp only [beq_self_eq_true, if_true, ih, hirrefl, true_and, false_or, List.cons.injEq]
          · have hle : a ≤ b ↔ a < b := by
              rw [← String.not_le]
              exact ⟨fun h hba => hab (String.le_antisymm h hba), fun h =>
                (String.le_total a b).resolve_right h⟩
            simp only [beq_iff_eq, hab, if_false, decide_eq_true_eq, hle, false_and, or_false,
              List.cons.injEq, false_or]

/-- Being earlier is transitive. -/
theorem Earlier.trans {as bs cs : List String} (h : Earlier as bs) (h' : Earlier bs cs) :
    Earlier as cs :=
  lt_trans (α := List String) h h'

/-- Of two places that differ one is earlier. -/
theorem earlier_trichotomy (as bs : List String) :
    Earlier as bs ∨ as = bs ∨ Earlier bs as :=
  lt_trichotomy (α := List String) as bs

/-- Sorting different paths puts them strictly in order. -/
theorem pairwise_earlier_mergeSort {places : List (List String)} (h : places.Nodup) :
    (places.mergeSort placeLe).Pairwise Earlier := by
  have htrans : ∀ as bs cs : List String, placeLe as bs = true → placeLe bs cs = true →
      placeLe as cs = true := by
    intro as bs cs hab hbc
    rw [placeLe_iff] at hab hbc ⊢
    rcases hab with rfl | hab
    · exact hbc
    · rcases hbc with rfl | hbc
      · exact .inr hab
      · exact .inr (hab.trans hbc)
  have htotal : ∀ as bs : List String, (placeLe as bs || placeLe bs as) = true := by
    intro as bs
    rw [Bool.or_eq_true, placeLe_iff, placeLe_iff]
    rcases earlier_trichotomy as bs with hab | rfl | hba
    · exact .inl (.inr hab)
    · exact .inl (.inl rfl)
    · exact .inr (.inr hba)
  have hdistinct : (places.mergeSort placeLe).Nodup :=
    (List.mergeSort_perm places placeLe).nodup_iff.2 h
  refine ((List.pairwise_mergeSort htrans htotal places).and hdistinct).imp ?_
  intro as bs hab
  exact (placeLe_iff.1 hab.1).resolve_left hab.2

/-! ## One directory -/

section Walk

variable {w : Workspace} {path name : String} {place below : List String}

/-- The names in a directory are those of the entries below it. -/
theorem mem_names_iff : name ∈ names w place ↔ ∃ e ∈ w.entries, place ++ [name] <+: e.1 := by
  rw [names, List.mem_eraseDups, List.mem_filterMap]
  refine exists_congr fun e => and_congr_right fun _ => ?_
  rw [Option.ite_none_right_eq_some, List.isPrefixOf_iff_prefix]
  constructor
  · rintro ⟨⟨rest, hrest⟩, hname⟩
    rw [← hrest, List.getElem?_append_right (Nat.le_refl _), Nat.sub_self] at hname
    obtain ⟨tail, rfl⟩ := List.head?_eq_some_iff.1 (List.head?_eq_getElem? ▸ hname)
    exact ⟨tail, by rw [← hrest, List.append_assoc, List.singleton_append]⟩
  · rintro ⟨rest, hrest⟩
    rw [← hrest, List.append_assoc]
    exact ⟨List.prefix_append _ _, by simp⟩

/-- There is a file at a place if that is what its entry says. -/
theorem hasFile_iff :
    hasFile w place = true ↔ ∃ content, w.entryAt? place = some (.file content) := by
  unfold hasFile
  split
  · rename_i content h
    simp [h]
  · rename_i h
    simpa using h

/-- A file is one of the entries. -/
theorem exists_mem_of_hasFile (h : hasFile w place = true) :
    ∃ content, (place, Entry.file content) ∈ w.entries := by
  obtain ⟨content, h⟩ := hasFile_iff.1 h
  unfold Workspace.entryAt? at h
  split at h
  · rename_i e he
    obtain rfl := Option.some.inj h
    obtain ⟨⟨p, entry⟩, hfind, rfl⟩ := Option.map_eq_some_iff.1 he
    have hplace := List.find?_some hfind
    obtain rfl : p = place := by simpa using hplace
    exact ⟨content, List.mem_of_find?_eq_some hfind⟩
  · split at h <;> cases h

/-- The file names of a directory are those of the files right in it. -/
theorem mem_fileNames_iff : name ∈ fileNames w place ↔ hasFile w (place ++ [name]) = true := by
  rw [fileNames, List.mem_filter, mem_names_iff, and_iff_right_iff_imp]
  intro h
  obtain ⟨content, hmem⟩ := exists_mem_of_hasFile h
  exact ⟨_, hmem, List.prefix_refl _⟩

/-- The directories that are entered are those that something is below, are no files and are not
skipped. -/
theorem mem_directoryNames_iff : name ∈ directoryNames w place ↔
    (∃ e ∈ w.entries, place ++ [name] <+: e.1) ∧ hasFile w (place ++ [name]) = false ∧
      isSkipped name = false := by
  rw [directoryNames, List.mem_mergeSort, List.mem_filter, mem_names_iff, Bool.and_eq_true,
    Bool.not_eq_true', Bool.not_eq_true']

/-- No file name of a directory is listed twice. -/
theorem nodup_fileNames : (fileNames w place).Nodup :=
  (nodup_eraseDups _).filter _

/-- No directory name is listed twice. -/
theorem nodup_directoryNames : (directoryNames w place).Nodup :=
  (List.mergeSort_perm _ _).nodup_iff.2 ((nodup_eraseDups _).filter _)

/-! ## The walk -/

/-- A walk lists the files of a directory, and then what is in its directories. -/
theorem walk_eq (h : path.utf8ByteSize < Workspace.pathLimit) :
    walk w path place = (fileNames w place).map (fun name => [name]) ++
      (directoryNames w place).flatMap fun name =>
        (walk w (path ++ "/" ++ name) (place ++ [name])).map (name :: ·) := by
  have hflat : ∀ f : String → List (List String),
      ((directoryNames w place).attach.flatMap fun x => f x.1) =
        (directoryNames w place).flatMap f := by
    intro f
    conv_rhs => rw [← List.attach_map_subtype_val (directoryNames w place), List.flatMap_map]
  rw [walk, if_neg (Nat.not_le.2 h)]
  exact congrArg _ (hflat fun name =>
    (walk w (path ++ "/" ++ name) (place ++ [name])).map (name :: ·))

/-- One step of the walk: a file in the directory, or a file that is found in a directory in it. -/
theorem mem_walk_iff (h : path.utf8ByteSize < Workspace.pathLimit) : below ∈ walk w path place ↔
    (∃ name ∈ fileNames w place, [name] = below) ∨
      ∃ name ∈ directoryNames w place,
        ∃ rest ∈ walk w (path ++ "/" ++ name) (place ++ [name]), name :: rest = below := by
  simp only [walk_eq h, List.mem_append, List.mem_map, List.mem_flatMap]

/-- A walk whose path is too long finds nothing. -/
theorem walk_eq_nil (h : Workspace.pathLimit ≤ path.utf8ByteSize) : walk w path place = [] := by
  rw [walk, if_pos h]

/-- The walk never finds the directory itself. -/
theorem nil_notMem_walk : [] ∉ walk w path place := by
  intro hnil
  by_cases h : path.utf8ByteSize < Workspace.pathLimit
  · rcases (mem_walk_iff h).1 hnil with ⟨_, _, heq⟩ | ⟨_, _, _, _, heq⟩ <;> cases heq
  · rw [walk_eq_nil (Nat.not_lt.1 h)] at hnil
    cases hnil

/-- The walk finds nothing twice. -/
theorem nodup_walk (w : Workspace) (path : String) (place : List String) :
    (walk w path place).Nodup := by
  induction path, place using walk.induct w with
  | case1 path place h =>
      rw [walk_eq_nil h]
      exact List.nodup_nil
  | case2 path place h ih =>
      rw [walk_eq (Nat.not_le.1 h)]
      refine List.Nodup.append ?_ ?_ ?_
      · exact nodup_fileNames.map fun a b hab => (List.cons.inj hab).1
      · refine List.nodup_flatMap.2 ⟨fun name hname => ?_, ?_⟩
        · exact (ih name hname).map fun a b hab => (List.cons.inj hab).2
        · -- What is found in different directories starts with different names.
          refine nodup_directoryNames.imp fun {a b} hab below ha hb => hab ?_
          obtain ⟨_, _, rfl⟩ := List.mem_map.1 ha
          obtain ⟨_, _, heq⟩ := List.mem_map.1 hb
          exact (List.cons.inj heq).1.symm
      · intro below hfile hdirectory
        obtain ⟨_, _, rfl⟩ := List.mem_map.1 hfile
        obtain ⟨_, _, hbelow⟩ := List.mem_flatMap.1 hdirectory
        obtain ⟨rest, hrest, heq⟩ := List.mem_map.1 hbelow
        rw [(List.cons.inj heq).2] at hrest
        exact nil_notMem_walk hrest

end Walk

/-! ## Trees of readable directories -/

/-- The entries of a workspace form a tree: they have the names of files and directories, and
nothing lies below a file. -/
structure IsTree (w : Workspace) : Prop where
  names : ∀ e ∈ w.entries, ∀ name ∈ e.1, PathName.IsName name
  leaves : ∀ e ∈ w.entries, ∀ place content, (place, Entry.file content) ∈ w.entries →
    place <+: e.1 → place = e.1

/-- The directories at a place and below it, which a path leads to, can be read: their own paths
have not grown too long. -/
def Readable (w : Workspace) (path : String) (place : List String) : Prop :=
  ∀ below, w.entryAt? (place ++ below) = some .directory →
    (Text.join "/" (path :: below)).utf8ByteSize < Workspace.pathLimit

section Tree

variable {w : Workspace} {path name : String} {place below : List String}

/-- What is readable is so from the directories in it. -/
theorem Readable.enter (h : Readable w path place) (name : String) :
    Readable w (path ++ "/" ++ name) (place ++ [name]) := by
  intro below hbelow
  rw [List.append_assoc] at hbelow
  exact h (name :: below) hbelow

/-- A place that something is below and that is no file is a directory. -/
theorem entryAt?_eq_directory (hbelow : ∃ e ∈ w.entries, place <+: e.1)
    (hfile : hasFile w place = false) : w.entryAt? place = some .directory := by
  have hany : (w.entries.any fun e => place.isPrefixOf e.1) = true := by
    simpa [List.any_eq_true, List.isPrefixOf_iff_prefix] using hbelow
  have hsome : w.entryAt? place ≠ none := by
    unfold Workspace.entryAt?
    split <;> simp [hany]
  cases hentry : w.entryAt? place with
  | none => exact absurd hentry hsome
  | some e =>
      cases e with
      | directory => rfl
      | file content =>
          rw [hasFile_iff.2 ⟨content, hentry⟩] at hfile
          cases hfile

/-- Directories can be read if the paths of all entries below a place are short enough. -/
theorem readable_of_entries (hne : place ≠ [])
    (h : ∀ e ∈ w.entries, ∀ below ∈ (e.1.drop place.length).inits,
      (Text.join "/" (path :: below)).utf8ByteSize < Workspace.pathLimit) :
    Readable w path place := by
  intro below hbelow
  have hentry : ∃ e ∈ w.entries, place ++ below <+: e.1 := by
    unfold Workspace.entryAt? at hbelow
    split at hbelow
    · rename_i e he
      obtain ⟨x, hfind, _⟩ := Option.map_eq_some_iff.1 he
      have hx : x.1 = place ++ below := by simpa using List.find?_some hfind
      exact ⟨x, List.mem_of_find?_eq_some hfind, hx ▸ List.prefix_refl _⟩
    · rw [Option.ite_none_right_eq_some, Bool.or_eq_true, List.isEmpty_iff,
        List.append_eq_nil_iff] at hbelow
      simpa [List.isPrefixOf_iff_prefix] using hbelow.1.resolve_left fun hnil => hne hnil.1
  obtain ⟨e, he, rest, hrest⟩ := hentry
  refine h e he below ((List.mem_inits _ _).2 ⟨rest, ?_⟩)
  rw [← hrest, List.append_assoc, List.drop_left]

/-- What the walk finds in a tree: the files whose way does not lead through a directory that is
passed over. -/
theorem mem_walk_of_tree (hw : IsTree w) (hreadable : Readable w path place)
    (hplace : w.entryAt? place = some .directory) : below ∈ walk w path place ↔
      hasFile w (place ++ below) = true ∧ ∀ name ∈ below.dropLast, isSkipped name = false := by
  induction below generalizing path place with
  | nil =>
      refine iff_of_false nil_notMem_walk fun h => ?_
      obtain ⟨content, hfile⟩ := hasFile_iff.1 h.1
      rw [List.append_nil, hplace] at hfile
      cases hfile
  | cons name rest ih =>
      have hsize : path.utf8ByteSize < Workspace.pathLimit :=
        hreadable [] (by rwa [List.append_nil])
      rw [mem_walk_iff hsize]
      cases rest with
      | nil =>
          simp only [mem_fileNames_iff]
          constructor
          · rintro (⟨_, hname, heq⟩ | ⟨_, _, rest, hrest, heq⟩)
            · obtain rfl := (List.cons.inj heq).1
              exact ⟨hname, by simp⟩
            · rw [(List.cons.inj heq).2] at hrest
              exact absurd hrest nil_notMem_walk
          · exact fun h => .inl ⟨name, h.1, rfl⟩
      | cons next rest =>
          have hplaces : place ++ name :: next :: rest = place ++ [name] ++ next :: rest := by simp
          rw [hplaces, List.dropLast_cons_cons, List.forall_mem_cons]
          constructor
          · rintro (⟨_, _, heq⟩ | ⟨_, hname, _, hrest, heq⟩)
            · cases heq
            · obtain ⟨rfl, rfl⟩ := List.cons.inj heq
              obtain ⟨hbelow, hfile, hskipped⟩ := mem_directoryNames_iff.1 hname
              have hin := (ih (hreadable.enter _) (entryAt?_eq_directory hbelow hfile)).1 hrest
              exact ⟨hin.1, hskipped, hin.2⟩
          · rintro ⟨hfound, hskipped, hrest⟩
            obtain ⟨content, hmem⟩ := exists_mem_of_hasFile hfound
            have hbelow : ∃ e ∈ w.entries, place ++ [name] <+: e.1 :=
              ⟨_, hmem, List.prefix_append _ _⟩
            -- Something lies below the name, so it is not that of a file.
            have hfile : hasFile w (place ++ [name]) = false := by
              by_contra h
              obtain ⟨_, hleaf⟩ := exists_mem_of_hasFile (Bool.not_eq_false _ ▸ h)
              have heq := hw.leaves _ hmem _ _ hleaf (List.prefix_append _ _)
              simp at heq
            have hin := (ih (hreadable.enter name) (entryAt?_eq_directory hbelow hfile)).2
              ⟨hfound, hrest⟩
            exact .inr ⟨name, mem_directoryNames_iff.2 ⟨hbelow, hfile, hskipped⟩, _, hin, rfl⟩

end Tree

/-! ## Names and patterns -/

/-- The names that are skipped are those in the list and those of package metadata. -/
theorem isSkipped_eq_false_iff {name : String} : isSkipped name = false ↔
    name ∉ skippedDirectories ∧ ∀ front, name ≠ front ++ ".egg-info" := by
  have hends : Text.endsWith name ".egg-info" = true ↔ ∃ front, name = front ++ ".egg-info" := by
    rw [Text.endsWith, List.isSuffixOf_iff_suffix]
    constructor
    · rintro ⟨front, hfront⟩
      exact ⟨String.ofList front, String.toList_inj.1 (by simp [← hfront])⟩
    · rintro ⟨front, rfl⟩
      exact ⟨front.toList, by simp⟩
  rw [isSkipped, ← Bool.not_eq_true, Bool.or_eq_true, hends, List.contains_iff_mem, not_or,
    not_exists]

/-- A pattern matches the path of a file from the root, or its bare name. -/
def Matched (patterns folders : List String) (name : String) : Prop :=
  ∃ p ∈ patterns,
    Glob.isMatch p (Text.join "/" (folders ++ [name])) = true ∨ Glob.isMatch p name = true

/-- A file passes the patterns if one of them fits its name or its path. -/
theorem matchesAny_iff {patterns folders : List String} {name : String} (h : '/' ∉ name.toList) :
    matchesAny (Text.join "/" (folders ++ [name])) patterns = true ↔
      Matched patterns folders name := by
  have hlast : Text.lastPiece '/' (Text.join "/" (folders ++ [name])) = name := by
    rw [Text.lastPiece, ← String.toList_inj, String.toList_ofList, Chars.lastPiece_eq_iff,
      Text.join, String.toList_intercalate, List.map_append, List.map_singleton]
    refine ⟨h, ?_⟩
    by_cases hfolders : folders = []
    · exact .inl (by simp [hfolders])
    · refine .inr ⟨"/".toList.intercalate (folders.map String.toList), ?_⟩
      rw [Chars.intercalate_concat _ _ (by simpa using hfolders), List.append_assoc]
      rfl
  simp only [matchesAny, hlast, List.any_eq_true, Bool.or_eq_true, Matched]

/-- A file below a place is admissible, going by the names of the directories on the way to it and
by its own. -/
structure Admissible (w : Workspace) (place includes excludes folders : List String)
    (name : String) : Prop where
  /-- There is such a file. -/
  file : ∃ content, w.entryAt? (place ++ (folders ++ [name])) = some (.file content)
  /-- No directory on the way is passed over. -/
  entered : ∀ d ∈ folders, d ∉ skippedDirectories ∧ ∀ front, d ≠ front ++ ".egg-info"
  included : includes = [] ∨ Matched includes folders name
  notExcluded : ¬ Matched excludes folders name

/-! ## What discovery finds -/

/-- The path of something below a root, by the names on the way to it. -/
def pathBelow (root : String) (below : List String) : String :=
  ((PathName.ofString root).join ⟨"", below⟩).toString

section Find

variable {w : Workspace} {root : String} {place includes excludes below folders : List String}
  {name : String}

/-- In a tree of files all names on the way to a file are names. -/
theorem isName_of_hasFile (hw : IsTree w) (h : hasFile w (place ++ below) = true) :
    ∀ name ∈ below, PathName.IsName name := by
  obtain ⟨content, hmem⟩ := exists_mem_of_hasFile h
  exact fun name hname => hw.names _ hmem name (List.mem_append_right _ hname)

/-- The path to a file goes through the root and the names below it. -/
theorem components_pathBelow (h : ∀ name ∈ below, PathName.IsName name) :
    (PathName.ofString (pathBelow root below)).components =
      (PathName.ofString root).components ++ below := by
  refine PathName.components_ofString_toString (PathName.exists_root_ofString root) ?_
  intro c hc
  rcases List.mem_append.1 hc with hc | hc
  · exact PathName.isName_of_mem_components hc
  · exact h c hc

/-- Different names lead to different paths. -/
theorem eq_of_pathBelow_eq {below' : List String} (h : ∀ name ∈ below, PathName.IsName name)
    (h' : ∀ name ∈ below', PathName.IsName name)
    (hpath : pathBelow root below = pathBelow root below') : below = below' := by
  have hcomponents : (PathName.ofString root).components ++ below =
      (PathName.ofString root).components ++ below' := by
    rw [← components_pathBelow h, ← components_pathBelow h', hpath]
  exact List.append_cancel_left hcomponents

/-- A file that the walk finds is taken if it is admissible. -/
theorem mem_taken_iff (hw : IsTree w) (hplace : w.entryAt? place = some .directory)
    (hreadable : Readable w (normalPath root) place) :
    below ∈ (walk w (normalPath root) place).filter (isTaken includes excludes) ↔
      ∃ folders name, below = folders ++ [name] ∧
        Admissible w place includes excludes folders name := by
  have htaken : ∀ folders name, hasFile w (place ++ (folders ++ [name])) = true →
      (isTaken includes excludes (folders ++ [name]) = true ↔
        (includes = [] ∨ Matched includes folders name) ∧ ¬ Matched excludes folders name) := by
    intro folders name hfile
    have hslash : '/' ∉ name.toList := (isName_of_hasFile hw hfile name (by simp)).2.2
    rw [isTaken, Bool.and_eq_true, Bool.or_eq_true, List.isEmpty_iff, Bool.not_eq_true',
      ← Bool.not_eq_true, matchesAny_iff hslash, matchesAny_iff hslash]
  rw [List.mem_filter, mem_walk_of_tree hw hreadable hplace]
  constructor
  · rintro ⟨⟨hfile, hentered⟩, hpatterns⟩
    rcases List.eq_nil_or_concat below with rfl | ⟨folders, name, rfl⟩
    · obtain ⟨content, hfile⟩ := hasFile_iff.1 hfile
      rw [List.append_nil, hplace] at hfile
      cases hfile
    · rw [List.concat_eq_append] at hfile hentered hpatterns ⊢
      rw [List.dropLast_concat] at hentered
      obtain ⟨hincluded, hexcluded⟩ := (htaken folders name hfile).1 hpatterns
      exact ⟨folders, name, rfl, hasFile_iff.1 hfile,
        fun d hd => isSkipped_eq_false_iff.1 (hentered d hd), hincluded, hexcluded⟩
  · rintro ⟨folders, name, rfl, h⟩
    have hfile := hasFile_iff.2 h.file
    rw [List.dropLast_concat, htaken folders name hfile]
    exact ⟨⟨hfile, fun d hd => isSkipped_eq_false_iff.2 (h.entered d hd)⟩, h.included,
      h.notExcluded⟩

/-- Discovery in a tree of readable directories finds the admissible files below the root, in the
order of their paths and each of them once. -/
theorem find_admissible (hw : IsTree w)
    (hroot : w.look (normalPath root) = .ok (some (.inside place)))
    (hplace : w.entryAt? place = some .directory)
    (hreadable : Readable w (normalPath root) place) (includes excludes : List String) :
    ∃ found, find w root includes excludes = .ok found ∧
      (found.Pairwise fun a b =>
        Earlier (PathName.ofString a).components (PathName.ofString b).components) ∧
      found.Nodup ∧
      ∀ path, path ∈ found ↔ ∃ folders name, path = pathBelow root (folders ++ [name]) ∧
        Admissible w place includes excludes folders name := by
  have hbase : rootPlace w (PathName.ofString root) = .ok (some place) := by
    have hlook : w.look (PathName.ofString root).toString = .ok (some (.inside place)) := hroot
    simp [rootPlace, hlook, Workspace.atSpot?, hplace, Except.mapError, bind, Except.bind, pure,
      Except.pure]
  let taken := (walk w (normalPath root) place).filter (isTaken includes excludes)
  have hfind : find w root includes excludes =
      .ok ((taken.mergeSort placeLe).map (pathBelow root)) := by
    simp only [find, hbase, bind, Except.bind, pure, Except.pure]
    rfl
  have hmem : ∀ below, below ∈ taken.mergeSort placeLe ↔ ∃ folders name,
      below = folders ++ [name] ∧ Admissible w place includes excludes folders name :=
    fun below => List.mem_mergeSort.trans (mem_taken_iff hw hplace hreadable)
  have hnames : ∀ below ∈ taken.mergeSort placeLe, ∀ name ∈ below, PathName.IsName name := by
    intro below hbelow
    obtain ⟨folders, name, rfl, h⟩ := (hmem below).1 hbelow
    exact isName_of_hasFile hw (hasFile_iff.2 h.file)
  have hsorted : ((taken.mergeSort placeLe).map (pathBelow root)).Pairwise fun a b =>
      Earlier (PathName.ofString a).components (PathName.ofString b).components := by
    rw [List.pairwise_map]
    refine (pairwise_earlier_mergeSort ((nodup_walk w _ place).filter _)).imp_of_mem ?_
    intro as bs has hbs hearlier
    rw [components_pathBelow (hnames as has), components_pathBelow (hnames bs hbs)]
    exact List.Lex.append_left _ hearlier _
  refine ⟨_, hfind, hsorted, hsorted.imp fun {a b} h heq => ?_, fun path => ?_⟩
  · subst heq
    exact lt_irrefl (α := List String) _ h
  · rw [List.mem_map]
    constructor
    · rintro ⟨below, hbelow, rfl⟩
      obtain ⟨folders, name, rfl, h⟩ := (hmem below).1 hbelow
      exact ⟨folders, name, rfl, h⟩
    · rintro ⟨folders, name, rfl, h⟩
      exact ⟨_, (hmem _).2 ⟨folders, name, rfl, h⟩, rfl⟩

end Find

/-- A package with a module in a directory of its own, and another one that was built. -/
def packaged : Workspace where
  entries := [(["build"], .directory), (["build", "main.py"], .file .empty),
    (["build", "lib", "util.py"], .file .empty), (["build", "dist", "old.py"], .file .empty)]

/-- The root may have the name of a directory that is passed over; directories below it may not. -/
theorem find_admissible_packaged : ∃ found,
    find packaged "build" ["*.py"] ["main.*"] = .ok found ∧ found.Nodup ∧
      "build/lib/util.py" ∈ found ∧ "build/dist/old.py" ∉ found ∧ "build/main.py" ∉ found := by
  have htree : IsTree packaged := by
    constructor
    · decide
    · intro e he place content hmem hprefix
      simp only [packaged, List.mem_cons, List.not_mem_nil, or_false, Prod.mk.injEq, reduceCtorEq,
        and_false, false_or] at he hmem
      rcases he with rfl | rfl | rfl | rfl <;> rcases hmem with ⟨rfl, _⟩ | ⟨rfl, _⟩ | ⟨rfl, _⟩ <;>
        simp_all
  have hreadable : Readable packaged (normalPath "build") ["build"] :=
    readable_of_entries (by decide) (by decide +kernel)
  have hlook : packaged.look (normalPath "build") = .ok (some (.inside ["build"])) := by
    decide +kernel
  obtain ⟨found, hfind, _, hnodup, hfound⟩ :=
    find_admissible htree hlook rfl hreadable ["*.py"] ["main.*"]
  -- The names on the way to what is found are those of its path.
  have hway : ∀ folders name, pathBelow "build" (folders ++ [name]) ∈ found →
      (∀ c ∈ folders ++ [name], PathName.IsName c) →
        Admissible packaged ["build"] ["*.py"] ["main.*"] folders name := by
    intro folders name hmem hnames
    obtain ⟨folders', name', hpath, h⟩ := (hfound _).1 hmem
    have hsame : folders ++ [name] = folders' ++ [name'] :=
      eq_of_pathBelow_eq hnames (isName_of_hasFile htree (hasFile_iff.2 h.file)) hpath
    obtain ⟨rfl, hname⟩ := List.append_inj' hsame rfl
    obtain rfl := List.singleton_inj.1 hname
    exact h
  refine ⟨found, hfind, hnodup, ?_, fun hmem => ?_, fun hmem => ?_⟩
  · refine (hfound _).2 ⟨["lib"], "util.py", by decide +kernel, ⟨⟨_, rfl⟩, ?_, ?_, ?_⟩⟩
    · intro d hd
      obtain rfl := List.mem_singleton.1 hd
      exact isSkipped_eq_false_iff.1 (by decide +kernel)
    · exact .inr ⟨"*.py", by simp, .inr (by decide +kernel)⟩
    · rintro ⟨p, hp, hmatch⟩
      obtain rfl := List.mem_singleton.1 hp
      exact absurd hmatch (by decide +kernel)
  · have h := hway ["dist"] "old.py" hmem (by decide +kernel)
    exact (h.entered "dist" (by simp)).1 (by decide)
  · have h := hway [] "main.py" hmem (by decide +kernel)
    exact h.notExcluded ⟨"main.*", by simp, .inr (by decide +kernel)⟩

end Discovery
end CrossAudit
