import CrossAudit.Proofs.Contract.Readability
import CrossAudit.Proofs.Text.Ends
import CrossAudit.Proofs.Text.Pieces

/-!
# Dotted imports

An import that names a module by all parts of its path is looked up by a key, the list of these
parts, and goes to the module whose path has the most of them at its end.  The key is read after
dropping an extension from the source of the import.  A dotted name has none, but its last part may
look like one: then that part is lost.

Main results:

- Theorem `moduleKey_dotted`, `moduleKey_dotted_lost`: the key of a dotted name.
- Theorem `modulePath_sourceFile`: the parts of a source file's path.
- Theorem `commonLength_reverse_eq_iff`: a path shares all of a key exactly if it ends with it.
- Theorem `dotted_import_resolved`: which dotted imports lead to the module that they name.
-/

namespace CrossAudit

/-- An entity notes an import of a source. -/
def Entity.ImportsFrom (e : Entity) (source : String) : Prop :=
  ∃ notes, ((e.metadata.lookup "imports").getD (.arr [])).elements = .ok notes ∧
    ∃ ms, .obj ms ∈ notes ∧ ms.lookup "source" = some (.str source)

namespace Reference

/-! ## Parts of names and paths -/

/-- A part of a dotted name or of a path: not empty, and without dots, slashes, backslashes and
blanks.  Every identifier is one. -/
structure IsPart (p : String) : Prop where
  ne_empty : p ≠ ""
  plain : ∀ c ∈ p.toList, c ∉ ['.', '/', '\\'] ∧ Text.isBlank c = false

/-- The name of a module by all its parts. -/
def dotted (parts : List String) : String :=
  Text.join "." parts

/-- The file of a module in the directories that its parts name. -/
def sourceFile (parts : List String) : String :=
  Text.join "/" parts ++ ".py"

/-- The parts of a file's path, without the extension of a source file.  Backslashes count as
slashes. -/
def modulePath (file : String) : List String :=
  (PathName.ofString (String.ofList
    (dropExtension (file.toList.map fun c => if c == '\\' then '/' else c)))).parts

section Parts

variable {parts init : List String} {last : String}

/-- A dotted name has a dot between its parts. -/
theorem toList_dotted (parts : List String) :
    (dotted parts).toList = ['.'].intercalate (parts.map String.toList) := by
  simp [dotted, Text.join, String.toList_intercalate]

/-- A name without separators and blanks is a part. -/
theorem isPart_of_all {p : String} (hne : p ≠ "")
    (hall : (p.toList.all fun c => decide (c ∉ ['.', '/', '\\']) && !Text.isBlank c) = true) :
    IsPart p := by
  refine ⟨hne, fun c hc => ?_⟩
  have hplain := List.all_eq_true.1 hall c hc
  rw [Bool.and_eq_true, decide_eq_true_iff, Bool.not_eq_true'] at hplain
  exact hplain

/-- A part has no separator in it. -/
theorem not_mem_of_isPart {p : String} {c : Char} (hp : IsPart p) (hc : c ∈ ['.', '/', '\\']) :
    c ∉ p.toList :=
  fun hmem => (hp.plain c hmem).1 hc

/-- Pieces that are joined are found again by cutting at the separator. -/
theorem splitOn_join {sep : Char} (hsep : sep ∈ ['.', '/', '\\']) (hne : parts ≠ [])
    (hparts : ∀ p ∈ parts, IsPart p) :
    (([sep].intercalate (parts.map String.toList)).splitOn sep).map String.ofList = parts := by
  have hfree : ∀ cs ∈ parts.map String.toList, sep ∉ cs := by
    intro cs hcs
    rcases List.mem_map.1 hcs with ⟨p, hp, rfl⟩
    exact not_mem_of_isPart (hparts p hp) hsep
  rw [List.splitOn_intercalate sep hfree (by simpa using hne), List.map_map]
  simp

/-- A character of joined parts is the separator or belongs to a part. -/
theorem eq_or_of_mem_join {sep c : Char}
    (hc : c ∈ [sep].intercalate (parts.map String.toList)) :
    c = sep ∨ ∃ p ∈ parts, c ∈ p.toList := by
  rcases Chars.mem_intercalate hc with hsep | ⟨cs, hcs, hmem⟩
  · exact Or.inl (List.mem_singleton.1 hsep)
  · rcases List.mem_map.1 hcs with ⟨p, hp, rfl⟩
    exact Or.inr ⟨p, hp, hmem⟩

/-- Joined parts start with a character of the first part. -/
theorem exists_join_eq_cons (sep : Char) (hne : parts ≠ []) (hparts : ∀ p ∈ parts, IsPart p) :
    ∃ c rest, [sep].intercalate (parts.map String.toList) = c :: rest ∧ c ≠ '/' := by
  rcases List.exists_cons_of_ne_nil hne with ⟨p, others, rfl⟩
  have hp := hparts p List.mem_cons_self
  have hchars : p.toList ≠ [] := fun h => hp.ne_empty (String.toList_eq_nil_iff.1 h)
  rcases List.exists_cons_of_ne_nil hchars with ⟨c, rest, hcs⟩
  have hc : c ≠ '/' := by
    rintro rfl
    exact not_mem_of_isPart hp (by simp) (hcs ▸ List.mem_cons_self)
  cases others with
  | nil => exact ⟨c, rest, by simp [hcs], hc⟩
  | cons q others =>
      refine ⟨c, rest ++ [sep] ++ [sep].intercalate ((q :: others).map String.toList), ?_, hc⟩
      rw [List.map_cons, List.map_cons, List.intercalate_cons_cons, hcs]
      rfl

/-- Parts that are joined by a separator hold no blank. -/
theorem not_isBlank_of_mem_join {sep c : Char} (hsep : Text.isBlank sep = false)
    (hparts : ∀ p ∈ parts, IsPart p) (hc : c ∈ [sep].intercalate (parts.map String.toList)) :
    Text.isBlank c = false := by
  rcases eq_or_of_mem_join hc with rfl | ⟨p, hp, hmem⟩
  · exact hsep
  · exact ((hparts p hp).plain c hmem).2

end Parts

/-! ## Extensions -/

/-- An extension is a dot and a word without dots. -/
theorem exists_word_of_mem_sourceExtensions {e : String} (he : e ∈ sourceExtensions) :
    ∃ w, e.toList = '.' :: w ∧ '.' ∉ w := by
  have hall : ∀ e ∈ sourceExtensions, e.toList.head? = some '.' ∧ '.' ∉ e.toList.tail := by
    decide
  rcases hall e he with ⟨hhead, htail⟩
  rcases List.head?_eq_some_iff.1 hhead with ⟨w, hw⟩
  rw [hw, List.tail_cons] at htail
  exact ⟨w, hw, htail⟩

/-- A text ends with at most one extension, which is the dot before its last piece and that
piece. -/
theorem eq_lastPiece_of_suffix {e : String} {cs : List Char} (he : e ∈ sourceExtensions)
    (h : e.toList <:+ cs) : e.toList = '.' :: Chars.lastPiece '.' cs := by
  rcases exists_word_of_mem_sourceExtensions he with ⟨w, hw, hfree⟩
  rcases h with ⟨body, hbody⟩
  have hlast : Chars.lastPiece '.' cs = w :=
    Chars.lastPiece_eq_iff.2 ⟨hfree, Or.inr ⟨body, by rw [← hw, hbody]⟩⟩
  rw [hw, hlast]

/-- An extension at the end is dropped. -/
theorem dropExtension_append {e : String} (he : e ∈ sourceExtensions) (body : List Char) :
    dropExtension (body ++ e.toList) = body := by
  have hfound : sourceExtensions.findSome? (fun e' => Chars.before? e'.toList (body ++ e.toList)) =
      some body := by
    -- Whichever extension is found first, it is this one.
    cases hfirst : sourceExtensions.findSome? fun e' =>
        Chars.before? e'.toList (body ++ e.toList) with
    | none =>
        have hnone := List.findSome?_eq_none_iff.1 hfirst e he
        have hsome : Chars.before? e.toList (body ++ e.toList) = some body :=
          Chars.before?_eq_some_iff.2 rfl
        rw [hsome] at hnone
        cases hnone
    | some b =>
        rcases List.exists_of_findSome?_eq_some hfirst with ⟨e', he', hb⟩
        rw [Chars.before?_eq_some_iff] at hb
        have hsame : e'.toList = e.toList :=
          (eq_lastPiece_of_suffix he' ⟨b, hb.symm⟩).trans
            (eq_lastPiece_of_suffix he (List.suffix_append body e.toList)).symm
        rw [hsame] at hb
        rw [List.append_cancel_right hb]
  simp only [dropExtension, hfound]

/-- A text that ends neither with an extension nor with a line feed is left alone. -/
theorem dropExtension_eq_self {cs : List Char} (h : ∀ e ∈ sourceExtensions, ¬ e.toList <:+ cs)
    (hfeed : cs.getLast? ≠ some '\n') : dropExtension cs = cs := by
  have hnone : sourceExtensions.findSome? (fun e => Chars.before? e.toList cs) = none := by
    rw [List.findSome?_eq_none_iff]
    intro e he
    rw [Option.eq_none_iff_forall_ne_some]
    intro body hbody
    exact h e he ⟨body, (Chars.before?_eq_some_iff.1 hbody).symm⟩
  simp only [dropExtension, hnone, beq_iff_eq, hfeed, if_false]

/-! ## The key of a dotted name -/

section Key

variable {init parts : List String} {last : String}

/-- A dotted name loses its last part if that stands behind another one and looks like an
extension. -/
def LosesLast (init : List String) (last : String) : Prop :=
  init ≠ [] ∧ "." ++ last ∈ sourceExtensions

instance (init : List String) (last : String) : Decidable (LosesLast init last) :=
  inferInstanceAs (Decidable (init ≠ [] ∧ "." ++ last ∈ sourceExtensions))

/-- The last piece of a dotted name is its last part. -/
theorem lastPiece_dotted (init : List String) (hlast : IsPart last) :
    Chars.lastPiece '.' (dotted (init ++ [last])).toList = last.toList := by
  rw [Chars.lastPiece_eq_iff, toList_dotted, List.map_append]
  refine ⟨not_mem_of_isPart hlast (by simp), ?_⟩
  by_cases hinit : init = []
  · left
    simp [hinit]
  · right
    refine ⟨['.'].intercalate (init.map String.toList), ?_⟩
    rw [List.map_singleton, Chars.intercalate_concat ['.'] last.toList (by simpa using hinit)]
    simp

/-- Unless a dotted name loses its last part, it does not end with an extension. -/
theorem not_suffix_dotted (hlast : IsPart last) (hkept : ¬ LosesLast init last) :
    ∀ e ∈ sourceExtensions, ¬ e.toList <:+ (dotted (init ++ [last])).toList := by
  intro e he hsuffix
  have hword := eq_lastPiece_of_suffix he hsuffix
  rw [lastPiece_dotted init hlast] at hword
  refine hkept ⟨?_, ?_⟩
  · rintro rfl
    -- A single part has no dot that an extension could start with.
    have hdot : '.' ∈ (dotted [last]).toList := hsuffix.subset (hword ▸ List.mem_cons_self)
    rw [toList_dotted, List.map_singleton, List.intercalate_singleton] at hdot
    exact not_mem_of_isPart hlast (by simp) hdot
  · have hsame : "." ++ last = e := by
      rw [← String.toList_inj, hword]
      simp
    rw [hsame]
    exact he

/-- The key of a source from which dropping the extension leaves joined parts. -/
theorem moduleKey_eq {source : String} (hne : parts ≠ []) (hparts : ∀ p ∈ parts, IsPart p)
    (h : dropExtension (Chars.strip source.toList) = (dotted parts).toList) :
    moduleKey source = parts := by
  have hslash : ((dotted parts).toList.contains '/') = false := by
    rw [← Bool.not_eq_true, List.contains_iff_mem, toList_dotted]
    intro hmem
    rcases eq_or_of_mem_join hmem with heq | ⟨p, hp, hc⟩
    · exact absurd heq (by decide)
    · exact not_mem_of_isPart (hparts p hp) (by simp) hc
  have hkey : moduleKey source =
      (((dotted parts).toList.splitOn '.').map String.ofList).filter (· != "") := by
    simp only [moduleKey, h, hslash, Bool.false_eq_true, if_false]
  rw [hkey, toList_dotted, splitOn_join (by simp) hne hparts, List.filter_eq_self]
  intro p hp
  simpa using (hparts p hp).ne_empty

/-- A dotted name has no blanks at its ends. -/
theorem strip_dotted (hparts : ∀ p ∈ parts, IsPart p) :
    Chars.strip (dotted parts).toList = (dotted parts).toList := by
  refine Chars.strip_eq_self fun c hc => ?_
  rw [toList_dotted] at hc
  exact not_isBlank_of_mem_join (by decide) hparts hc

/-- A dotted name has its parts as its key, unless it loses the last one. -/
theorem moduleKey_dotted (hparts : ∀ p ∈ init ++ [last], IsPart p)
    (hkept : ¬ LosesLast init last) : moduleKey (dotted (init ++ [last])) = init ++ [last] := by
  refine moduleKey_eq (by simp) hparts ?_
  rw [strip_dotted hparts]
  refine dropExtension_eq_self (not_suffix_dotted (hparts last (by simp)) hkept) fun hfeed => ?_
  have hmem := List.mem_of_getLast? hfeed
  rw [toList_dotted] at hmem
  exact absurd (not_isBlank_of_mem_join (by decide) hparts hmem) (by decide)

/-- A dotted name that loses its last part has the parts before as its key. -/
theorem moduleKey_dotted_lost (hparts : ∀ p ∈ init ++ [last], IsPart p)
    (hlost : LosesLast init last) : moduleKey (dotted (init ++ [last])) = init := by
  refine moduleKey_eq hlost.1 (fun p hp => hparts p (by simp [hp])) ?_
  have hsplit : (dotted (init ++ [last])).toList = (dotted init).toList ++ ("." ++ last).toList := by
    rw [toList_dotted, toList_dotted, List.map_append, List.map_singleton,
      Chars.intercalate_concat ['.'] last.toList (by simpa using hlost.1)]
    simp
  rw [strip_dotted hparts, hsplit, dropExtension_append hlost.2]

end Key

/-! ## The path of a source file -/

/-- The file of a module has the parts of its name as its path. -/
theorem modulePath_sourceFile {parts : List String} (hne : parts ≠ [])
    (hparts : ∀ p ∈ parts, IsPart p) : modulePath (sourceFile parts) = parts := by
  have hfile : (sourceFile parts).toList =
      ['/'].intercalate (parts.map String.toList) ++ ".py".toList := by
    simp [sourceFile, Text.join, String.toList_intercalate]
  have hslashes : (sourceFile parts).toList.map (fun c => if c == '\\' then '/' else c) =
      (sourceFile parts).toList := by
    refine List.map_congr_left (g := id) (fun c hc => ?_) |>.trans (List.map_id _)
    have hplain : c ≠ '\\' := by
      rintro rfl
      rw [hfile] at hc
      rcases List.mem_append.1 hc with hc | hc
      · rcases eq_or_of_mem_join hc with heq | ⟨p, hp, hmem⟩
        · exact absurd heq (by decide)
        · exact not_mem_of_isPart (hparts p hp) (by simp) hmem
      · exact absurd hc (by decide)
    simp [hplain]
  have hpath : modulePath (sourceFile parts) =
      (PathName.ofString (String.ofList (['/'].intercalate (parts.map String.toList)))).parts := by
    rw [modulePath, hslashes, hfile, dropExtension_append (by decide)]
  have hcomponents : (PathName.ofString
      (String.ofList (['/'].intercalate (parts.map String.toList)))).components = parts := by
    rw [PathName.ofString, Text.splitOn, String.toList_ofList, splitOn_join (by simp) hne hparts,
      List.filter_eq_self]
    intro p hp
    have hdot : p ≠ "." := by
      rintro rfl
      exact not_mem_of_isPart (c := '.') (hparts "." hp) (by simp) (by decide)
    simpa using ⟨(hparts p hp).ne_empty, hdot⟩
  have hroot : (PathName.ofString
      (String.ofList (['/'].intercalate (parts.map String.toList)))).root = "" := by
    rcases exists_join_eq_cons '/' hne hparts with ⟨c, rest, hjoin, hc⟩
    have hslash : (c == '/') = false := by simpa using hc
    simp [PathName.ofString, hjoin, hslash, PathName.rootOf]
  rw [hpath, PathName.parts, hroot, hcomponents]
  rfl

/-! ## How much of a key a path shares -/

/-- No more parts are common than there are. -/
theorem commonLength_le (as bs : List String) : commonLength as bs ≤ as.length := by
  fun_induction commonLength as bs <;> simp_all

/-- All parts are common exactly if one list starts with the other. -/
theorem commonLength_eq_length_iff (as bs : List String) :
    commonLength as bs = as.length ↔ as <+: bs := by
  fun_induction commonLength as bs with
  | case1 a as b bs heq ih =>
      have hab : a = b := by simpa using heq
      simp [hab, ih]
  | case2 a as b bs hne =>
      have hab : a ≠ b := by simpa using hne
      simp [hab]
  | case3 as bs hshort =>
      cases as with
      | nil => simp
      | cons a as =>
          cases bs with
          | nil => simp
          | cons b bs => exact absurd rfl (hshort a as b bs rfl)

/-- No more parts overlap than the key has. -/
theorem suffixOverlap_le (key : List String) (file : String) :
    suffixOverlap key file ≤ key.length := by
  rw [← List.length_reverse]
  exact commonLength_le _ _

/-- A path shares all of a key exactly if it ends with it. -/
theorem suffixOverlap_eq_length_iff (key : List String) (file : String) :
    suffixOverlap key file = key.length ↔ key <:+ modulePath file := by
  rw [← List.length_reverse, ← List.reverse_prefix]
  exact commonLength_eq_length_iff _ _

/-! ## The module of a key -/

section Module

variable {key : List String} {modules : List Entity} {source target : Entity}

/-- A module that shares more of a key than all others is the best one. -/
theorem foldl_betterModule_eq {best : Option Entity}
    (hbest : ∀ c ∈ modules, c ≠ target → suffixOverlap key c.file < suffixOverlap key target.file)
    (hstart : best = some target ∨ target ∈ modules ∧
      ∀ b ∈ best, suffixOverlap key b.file < suffixOverlap key target.file) :
    modules.foldl (betterModule key) best = some target := by
  induction modules generalizing best with
  | nil =>
      rcases hstart with rfl | ⟨hmem, _⟩
      · rfl
      · cases hmem
  | cons c modules ih =>
      rw [List.foldl_cons]
      refine ih (fun c' hc' => hbest c' (List.mem_cons_of_mem c hc')) ?_
      have hc := hbest c List.mem_cons_self
      rcases hstart with rfl | ⟨hmem, hworse⟩
      · left
        by_cases heq : c = target
        · simp [betterModule, heq]
        · simp [betterModule, (hc heq).le]
      · by_cases heq : c = target
        · left
          cases best with
          | none => simp [betterModule, heq]
          | some b => simp [betterModule, heq, hworse b rfl]
        · right
          have hrest : target ∈ modules := by
            rcases List.mem_cons.1 hmem with hhead | hrest
            · exact absurd hhead.symm heq
            · exact hrest
          refine ⟨hrest, fun b hb => ?_⟩
          -- Neither the best one so far nor this one shares as much.
          cases best with
          | none =>
              cases hb
              exact hc heq
          | some b' =>
              simp only [betterModule] at hb
              split at hb
              · cases hb
                exact hc heq
              · exact hworse b hb

/-- The module of a key, if one shares more of it than all others of its last name. -/
theorem importedModule?_eq_some (hmem : target ∈ modules) (hname : key.getLast? = some target.name)
    (hid : target.id ≠ source.id) (hlanguage : target.language = source.language)
    (hbest : ∀ c ∈ modules, c.id ≠ source.id → c.language = source.language → c ≠ target →
      suffixOverlap key c.file < suffixOverlap key target.file) :
    importedModule? modules source key = some target := by
  refine foldl_betterModule_eq (fun c hc hne => ?_) (Or.inr ⟨?_, by simp⟩)
  · rcases List.mem_filter.1 hc with ⟨hc, htest⟩
    simp only [Bool.and_eq_true, beq_iff_eq, bne_iff_ne] at htest
    exact hbest c hc htest.1.2 htest.2 hne
  · refine List.mem_filter.2 ⟨hmem, ?_⟩
    simp [hname, hid, hlanguage]

/-- The module of a key has the key's last part as its name. -/
theorem name_of_importedModule? (h : importedModule? modules source key = some target) :
    key.getLast? = some target.name := by
  rcases mem_of_foldl_betterModule h with hmem | hnone
  · have htest := (List.mem_filter.1 hmem).2
    simp only [Bool.and_eq_true, beq_iff_eq] at htest
    exact htest.1.1.symm
  · cases hnone

end Module

/-! ## Dotted imports -/

variable {entities : List Entity} {m t : Entity}

/-- A module of one language among entities. -/
structure IsModule (entities : List Entity) (language : String) (e : Entity) : Prop where
  mem : e ∈ entities
  type_eq : e.type = "module"
  language_eq : e.language = language

/-- A module is among the entities of its type. -/
theorem IsModule.mem_filter {language : String} (h : IsModule entities language m) :
    m ∈ entities.filter fun e => e.type == "module" :=
  List.mem_filter.2 ⟨h.mem, by simp [h.type_eq]⟩

/-- An import that leads to a module is among the references that are built. -/
theorem exists_import_of_build {language source : String} {refs : List Reference}
    {after : List Entity} (hm : IsModule entities language m) (himports : m.ImportsFrom source)
    (htarget : importedModule? (entities.filter fun e => e.type == "module") m
      (moduleKey source) = some t) (h : build entities = .ok (refs, after)) :
    ∃ r ∈ refs, r.key = (m.id, t.id, "imports") := by
  rcases exists_inferred_of_build h with ⟨rs, hrs, rfl⟩
  have hfound : ∃ is, imports entities = .ok is := by
    simp only [inferred, bind_eq_ok_iff] at hrs
    rcases hrs with ⟨_, _, is, his, _⟩
    exact ⟨is, his⟩
  rcases hfound with ⟨is, his⟩
  rcases himports with ⟨notes, hnotes, ms, hms, hsource⟩
  have hmem : between m t "imports" "direct" importResolved [("source", .str source)] ∈ is := by
    rcases exists_subset_of_flatten_mapM his hm.mem_filter with ⟨found, hfound, hsubset⟩
    rw [hnotes, bind_eq_ok_iff] at hfound
    rcases hfound with ⟨_, ⟨⟩, hfound⟩
    rw [bind_eq_ok_iff] at hfound
    rcases hfound with ⟨found', hfound', hfilter⟩
    cases hfilter
    rcases exists_mem_of_mapM hfound' hms with ⟨r, hr, hnote⟩
    have hread : ofImport (entities.filter fun e => e.type == "module") m (.obj ms) =
        .ok (some (between m t "imports" "direct" importResolved [("source", .str source)])) := by
      simp only [ofImport, Json.member, hsource]
      rw [← Option.map_some (f := fun target =>
        between m target "imports" "direct" importResolved [("source", .str source)]), ← htarget]
      rfl
    rw [hread, Except.ok.injEq] at hnote
    exact hsubset (List.mem_filterMap.2 ⟨r, hr, hnote.symm⟩)
  rcases exists_mem_strongest ((mem_inferred_iff hrs).2 (.imported his hmem)) with
    ⟨kept, hkept, hkey, _⟩
  exact ⟨kept, hkept, hkey⟩

/-- If no two entities have the same name, references can be built exactly if all entities are
legible.  Then a dotted import of a module leads to the only other module of its language whose path
ends with all its parts, unless the name loses its last part; such a name only ever leads to modules
of the name of the part before. -/
theorem dotted_import_resolved {init : List String} {last : String}
    (hdistinct : (entities.map (·.id)).Nodup) (ht : IsModule entities "python" t)
    (hm : IsModule entities "python" m) (hne : m ≠ t) (hparts : ∀ p ∈ init ++ [last], IsPart p)
    (hfile : t.file = sourceFile (init ++ [last])) (hname : t.name = last)
    (himports : m.ImportsFrom (dotted (init ++ [last])))
    (honly : ∀ c, IsModule entities "python" c → c ≠ m →
      init ++ [last] <:+ modulePath c.file → c = t) :
    ((∃ built, build entities = .ok built) ↔
      ∀ e ∈ entities, isLegible (Contract.endpoints entities) e = true) ∧
    (¬ LosesLast init last → ∀ refs after, build entities = .ok (refs, after) →
      ∃ r ∈ refs, r.key = (m.id, t.id, "imports")) ∧
    (LosesLast init last → ∀ target,
      importedModule? (entities.filter fun e => e.type == "module") m
        (moduleKey (dotted (init ++ [last]))) = some target → init.getLast? = some target.name) := by
  refine ⟨exists_build_iff entities, fun hkept refs after hbuild => ?_, fun hlost target h => ?_⟩
  · refine exists_import_of_build hm himports ?_ hbuild
    have hid : ∀ c ∈ entities, c.id = m.id → c = m := fun c hc h =>
      List.inj_on_of_nodup_map hdistinct hc hm.mem h
    have hpath : modulePath t.file = init ++ [last] := by
      rw [hfile, modulePath_sourceFile (by simp) hparts]
    have hall : suffixOverlap (init ++ [last]) t.file = (init ++ [last]).length :=
      (suffixOverlap_eq_length_iff _ _).2 ⟨[], hpath.symm⟩
    rw [moduleKey_dotted hparts hkept]
    refine importedModule?_eq_some ht.mem_filter (by simp [hname])
      (fun h => hne (hid t ht.mem h).symm) (ht.language_eq.trans hm.language_eq.symm) ?_
    intro c hc hcid hclanguage hct
    rcases List.mem_filter.1 hc with ⟨hcmem, hctype⟩
    have hmodule : IsModule entities "python" c :=
      ⟨hcmem, by simpa using hctype, hclanguage.trans hm.language_eq⟩
    -- Only `t` shares the whole key, so any other module shares less.
    refine lt_of_le_of_ne ((suffixOverlap_le _ _).trans_eq hall.symm) fun heq => hct ?_
    rw [hall, suffixOverlap_eq_length_iff] at heq
    exact honly c hmodule (fun h => hcid (by rw [h])) heq
  · rw [moduleKey_dotted_lost hparts hlost] at h
    exact name_of_importedModule? h

/-- A module that imports one of three modules of the same name by its dotted name. -/
def library : List Entity :=
  [{ id := "blog/user", name := "user", language := "python", file := "blog/user.py"
     type := "module", startLine := 1, endLine := 9 },
   { id := "src/models/user", name := "user", language := "python", file := "src/models/user.py"
     type := "module", startLine := 1, endLine := 9 },
   { id := "app/models/user", name := "user", language := "python", file := "app/models/user.py"
     type := "module", startLine := 1, endLine := 9 },
   { id := "main", name := "main", language := "python", file := "main.py", type := "module"
     startLine := 1, endLine := 9
     metadata := [("imports", .arr [.obj [("source", .str "app.models.user")]])] }]

/-- A dotted import leads to the module whose path ends like it. -/
theorem dotted_import_resolved_library : ∃ refs after, build library = .ok (refs, after) ∧
    ∃ r ∈ refs, r.key = ("main", "app/models/user", "imports") := by
  have honly : ∀ c, IsModule library "python" c → c ≠ library[3] →
      ["app", "models"] ++ ["user"] <:+ modulePath c.file → c = library[2] := by
    intro c hc hne hsuffix
    have hmem := hc.mem
    simp only [library, List.mem_cons, List.not_mem_nil, or_false] at hmem
    rcases hmem with rfl | rfl | rfl | rfl
    · exact absurd hsuffix (by decide)
    · exact absurd hsuffix (by decide)
    · rfl
    · exact absurd rfl hne
  have hparts : ∀ p ∈ ["app", "models"] ++ ["user"], IsPart p := by
    intro p hp
    simp only [List.cons_append, List.nil_append, List.mem_cons, List.not_mem_nil, or_false] at hp
    rcases hp with rfl | rfl | rfl <;> exact isPart_of_all (by decide) (by decide)
  have hresolved := @dotted_import_resolved library library[3] library[2] ["app", "models"] "user"
    (by decide) ⟨by simp [library], rfl, rfl⟩ ⟨by simp [library], rfl, rfl⟩
    (fun h => absurd (congrArg Entity.id h) (by decide))
    hparts (by decide) rfl ⟨_, rfl, _, List.mem_cons_self, rfl⟩ honly
  rcases hresolved.1.2 (by decide +kernel) with ⟨⟨refs, after⟩, hbuild⟩
  exact ⟨refs, after, hbuild, hresolved.2.1 (by decide) refs after hbuild⟩

/-- A module that imports a module by its dotted name, the last part of which looks like an
extension. -/
def toolbox : List Entity :=
  [{ id := "app/go", name := "go", language := "python", file := "app/go.py", type := "module"
     startLine := 1, endLine := 9 },
   { id := "main", name := "main", language := "python", file := "main.py", type := "module"
     startLine := 1, endLine := 9
     metadata := [("imports", .arr [.obj [("source", .str "app.go")]])] }]

/-- A dotted import of the only module that it can mean may lead nowhere. -/
theorem dotted_import_lost_toolbox : (toolbox.map (·.id)).Nodup ∧
    IsModule toolbox "python" toolbox[0] ∧ IsModule toolbox "python" toolbox[1] ∧
    toolbox[0].file = sourceFile ["app", "go"] ∧ toolbox[0].name = "go" ∧
    toolbox[1].ImportsFrom (dotted ["app", "go"]) ∧
    (∀ c, IsModule toolbox "python" c → c ≠ toolbox[1] →
      ["app", "go"] <:+ modulePath c.file → c = toolbox[0]) ∧
    (build toolbox).map (fun built => built.1.map key) = .ok [] := by
  refine ⟨by decide, ⟨by simp [toolbox], rfl, rfl⟩, ⟨by simp [toolbox], rfl, rfl⟩, by decide, rfl,
    ⟨_, rfl, _, List.mem_cons_self, rfl⟩, fun c hc hne _ => ?_, by decide +kernel⟩
  have hmem := hc.mem
  simp only [toolbox, List.mem_cons, List.not_mem_nil, or_false] at hmem
  rcases hmem with rfl | rfl
  · rfl
  · exact absurd rfl hne

end Reference
end CrossAudit
