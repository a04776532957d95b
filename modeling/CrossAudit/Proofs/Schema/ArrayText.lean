import CrossAudit.Proofs.Schema.Nesting
import CrossAudit.Proofs.Text.Classes
import CrossAudit.Proofs.Text.Ends
import CrossAudit.Proofs.Text.Pieces

/-!
# Array types as they are written

Every language has its own spellings of an array, which may be put around a name one after the
other.  The recognisers take the outermost spelling off again, whatever stands inside: an opening
tells spellings apart, and array brackets behind a type only end the one spelling that has no
opening.  The one text that is mistaken is an array of a type named `Optional`, which looks like an
optional of something if no other opening stands before the name.

Main results:

- Theorem `enclosed?_eq_some_iff`: when something stands between an opening and an ending.
- Theorem `IsSpelt.elementType?_eq`: the element type of an array.
- Theorem `IsSpelt.looksOptional`: when an array type looks like an optional.
-/

namespace CrossAudit
namespace Schema

/-! ## Recognisers -/

/-- In a text without line feeds, something stands between an opening and an ending if the text
consists of the three. -/
theorem enclosed?_eq_some_iff {opening ending cs body : List Char} (h : '\n' ∉ cs) :
    enclosed? opening ending cs = some body ↔ cs = opening ++ body ++ ending := by
  have hlast : (cs.getLast? == some '\n') = false := by
    rw [beq_eq_false_iff_ne]
    intro hfeed
    exact h (List.mem_of_getLast? hfeed)
  have hinner : ((Chars.after? opening cs).bind (Chars.before? ending)).filter
      (fun body => !body.contains '\n') = some body ↔ cs = opening ++ body ++ ending := by
    rw [Option.filter_eq_some_iff, Option.bind_eq_some_iff]
    simp only [Chars.after?_eq_some_iff, Chars.before?_eq_some_iff]
    constructor
    · rintro ⟨⟨rest, rfl, rfl⟩, -⟩
      rw [List.append_assoc]
    · rintro rfl
      refine ⟨⟨body ++ ending, by rw [List.append_assoc], rfl⟩, ?_⟩
      have hbody : '\n' ∉ body := fun hmem => h (by simp [hmem])
      simp [hbody]
  rw [enclosed?]
  simp only [hlast, Bool.false_eq_true, if_false]
  rw [← hinner]
  split
  · rename_i found hfound
    rw [hfound]
  · rename_i hnone
    rw [hnone]

/-! ## Spellings -/

/-- The characters of the name of a type. -/
def isNameChar (c : Char) : Bool :=
  Text.isWord c || c == '.'

/-- The spellings of an array in a language: what stands before and after the element type. -/
def spellings (language : String) : List (String × String) :=
  if language = "typescript" ∨ language = "javascript" then
    [("", "[]"), ("Array<", ">"), ("ReadonlyArray<", ">")]
  else if language = "python" then
    [("List[", "]"), ("list[", "]"), ("Sequence[", "]"), ("Set[", "]"), ("set[", "]"),
      ("Tuple[", "]"), ("tuple[", "]")]
  else if language = "go" then [("[]", "")]
  else []

/-- The array of an element type. -/
def wrap (array : String × String) (element : List Char) : List Char :=
  array.1.toList ++ element ++ array.2.toList

/-- A type in arrays, the outermost first. -/
def spelt (arrays : List (String × String)) (base : List Char) : List Char :=
  arrays.foldr wrap base

/-- An array is spelt around its element. -/
theorem wrap_eq (array : String × String) (element : List Char) :
    wrap array element = array.1.toList ++ element ++ array.2.toList :=
  rfl

@[simp]
theorem spelt_nil (base : List Char) : spelt [] base = base :=
  rfl

@[simp]
theorem spelt_cons (array : String × String) (arrays : List (String × String)) (base : List Char) :
    spelt (array :: arrays) base = wrap array (spelt arrays base) :=
  rfl

/-- The spellings of every language are among all of them. -/
theorem mem_arraySpellings {language : String} {array : String × String}
    (h : array ∈ spellings language) : array ∈ arraySpellings := by
  have hall : ∀ array ∈ spellings language, array ∈ arraySpellings := by
    unfold spellings
    split_ifs <;> decide
  exact hall array h

/-- Where arrays are written in front of the element type, there is no other way to write them. -/
theorem spellings_of_opening {language : String} (h : ("[]", "") ∈ spellings language)
    {array : String × String} (harray : array ∈ spellings language) : array = ("[]", "") := by
  revert h harray
  unfold spellings
  split_ifs <;> simp

/-! ## Characters -/

/-- A type in arrays: its name, and the arrays around it. -/
structure IsSpelt (language : String) (arrays : List (String × String)) (base : List Char) :
    Prop where
  base_ne : base ≠ []
  base_chars : ∀ c ∈ base, isNameChar c = true
  arrays_mem : ∀ array ∈ arrays, array ∈ spellings language

variable {language : String} {array : String × String} {arrays : List (String × String)}
  {base : List Char}

/-- The element of a spelt array is spelt. -/
theorem IsSpelt.tail (h : IsSpelt language (array :: arrays) base) :
    IsSpelt language arrays base where
  base_ne := h.base_ne
  base_chars := h.base_chars
  arrays_mem := fun a ha => h.arrays_mem a (List.mem_cons_of_mem array ha)

/-- The outermost array is spelt in one of the ways. -/
theorem IsSpelt.head_mem (h : IsSpelt language (array :: arrays) base) :
    array ∈ arraySpellings :=
  mem_arraySpellings (h.arrays_mem array List.mem_cons_self)

/-- The characters that arrays are written with, besides names. -/
def brackets : List Char :=
  ['[', ']', '<', '>']

/-- Spellings of arrays are made of characters of names and of brackets. -/
theorem isNameChar_or_bracket_of_mem_spelling {c : Char} (harray : array ∈ arraySpellings)
    (h : c ∈ array.1.toList ∨ c ∈ array.2.toList) : isNameChar c = true ∨ c ∈ brackets := by
  have hall : ∀ array ∈ arraySpellings, (array.1.toList ++ array.2.toList).all
      (fun c => isNameChar c || brackets.contains c) = true := by decide +kernel
  have hc := List.all_eq_true.1 (hall array harray) c (List.mem_append.2 h)
  rwa [Bool.or_eq_true, List.contains_iff_mem] at hc

/-- An array type is written with the characters of names and brackets. -/
theorem IsSpelt.isNameChar_or_bracket (h : IsSpelt language arrays base) {c : Char}
    (hc : c ∈ spelt arrays base) : isNameChar c = true ∨ c ∈ brackets := by
  induction arrays with
  | nil => exact Or.inl (h.base_chars c hc)
  | cons array arrays ih =>
      rw [spelt_cons, wrap_eq, List.mem_append, List.mem_append] at hc
      rcases hc with (hc | hc) | hc
      · exact isNameChar_or_bracket_of_mem_spelling h.head_mem (Or.inl hc)
      · exact ih h.tail hc
      · exact isNameChar_or_bracket_of_mem_spelling h.head_mem (Or.inr hc)

/-- No other character occurs in an array type. -/
theorem IsSpelt.notMem (h : IsSpelt language arrays base) {c : Char} (hname : isNameChar c = false)
    (hbracket : c ∉ brackets) : c ∉ spelt arrays base := by
  intro hc
  rcases h.isNameChar_or_bracket hc with hc | hc
  · rw [hname] at hc
    cases hc
  · exact hbracket hc

/-- A spelt type is not empty. -/
theorem IsSpelt.spelt_ne_nil (h : IsSpelt language arrays base) : spelt arrays base ≠ [] := by
  induction arrays with
  | nil => exact h.base_ne
  | cons array arrays ih => simp [wrap_eq, ih h.tail]

/-- Characters of names are not blank. -/
theorem isBlank_of_isNameChar {c : Char} (h : isNameChar c = true) : Text.isBlank c = false := by
  rcases Bool.or_eq_true_iff.1 h with h | h
  · exact Text.isBlank_of_isWord h
  · rw [beq_iff_eq.1 h]
    decide

/-- No character of a spelt type is blank. -/
theorem IsSpelt.isBlank_eq_false (h : IsSpelt language arrays base) {c : Char}
    (hc : c ∈ spelt arrays base) : Text.isBlank c = false := by
  have hbrackets : brackets.all (!Text.isBlank ·) = true := by decide
  rcases h.isNameChar_or_bracket hc with hc | hc
  · exact isBlank_of_isNameChar hc
  · simpa using List.all_eq_true.1 hbrackets c hc

/-- The last character of an array type ends its name or one of its arrays. -/
theorem IsSpelt.getLast?_cases (h : IsSpelt language arrays base) {c : Char}
    (hc : (spelt arrays base).getLast? = some c) :
    isNameChar c = true ∨ ∃ array ∈ arrays, array.2.toList.getLast? = some c := by
  induction arrays with
  | nil => exact Or.inl (h.base_chars c (List.mem_of_getLast? hc))
  | cons array arrays ih =>
      rw [spelt_cons, wrap_eq] at hc
      by_cases hending : array.2.toList = []
      · rw [hending, List.append_nil, List.getLast?_append_of_ne_nil _ h.tail.spelt_ne_nil] at hc
        refine (ih h.tail hc).imp_right ?_
        rintro ⟨other, hother, hlast⟩
        exact ⟨other, List.mem_cons_of_mem array hother, hlast⟩
      · rw [List.getLast?_append_of_ne_nil _ hending] at hc
        exact Or.inr ⟨array, List.mem_cons_self, hc⟩

/-- No array type ends with an opening bracket. -/
theorem IsSpelt.getLast?_ne_opening (h : IsSpelt language arrays base) :
    (spelt arrays base).getLast? ≠ some '[' := by
  have hendings : ∀ array ∈ arraySpellings, array.2.toList.getLast? ≠ some '[' := by decide
  intro hlast
  rcases h.getLast?_cases hlast with hname | ⟨array, harray, hending⟩
  · exact absurd hname (by decide)
  · exact hendings array (mem_arraySpellings (h.arrays_mem array harray)) hending

/-! ## Elements -/

/-- Array brackets end an array type only if they are its outermost array. -/
theorem IsSpelt.not_brackets_suffix (h : IsSpelt language (array :: arrays) base)
    (hne : array ≠ ("", "[]")) : ¬ "[]".toList <:+ wrap array (spelt arrays base) := by
  have hendings : ∀ array ∈ arraySpellings, array ≠ ("", "[]") →
      array = ("[]", "") ∨ array.2.toList = [']'] ∨ array.2.toList = ['>'] := by decide
  rintro ⟨front, hfront⟩
  have hlast := congrArg List.getLast? hfront
  rw [wrap_eq, List.getLast?_append_of_ne_nil _ (by decide)] at hlast
  rcases hendings array h.head_mem hne with rfl | hending | hending
  · rw [String.toList_empty, List.append_nil,
      List.getLast?_append_of_ne_nil _ h.tail.spelt_ne_nil] at hlast
    rcases h.tail.getLast?_cases hlast.symm with hname | ⟨other, hother, hlast⟩
    · exact absurd hname (by decide)
    · have hsame := spellings_of_opening (h.arrays_mem _ List.mem_cons_self)
        (h.tail.arrays_mem other hother)
      rw [hsame] at hlast
      cases hlast
  · have hcut : (front ++ ['[']) ++ [']'] = (array.1.toList ++ spelt arrays base) ++ [']'] := by
      rw [wrap_eq, hending] at hfront
      rw [List.append_assoc]
      exact hfront
    have hopening := congrArg List.getLast? (List.append_cancel_right hcut)
    rw [List.getLast?_concat, List.getLast?_append_of_ne_nil _ h.tail.spelt_ne_nil] at hopening
    exact h.tail.getLast?_ne_opening hopening.symm
  · rw [hending, List.getLast?_concat] at hlast
    exact absurd hlast (by decide)

/-- Two different openings do not start one text. -/
theorem eq_of_openings {other : String × String} {cs : List Char}
    (hother : other ∈ arraySpellings) (hne' : other ≠ ("", "[]")) (harray : array ∈ arraySpellings)
    (hne : array ≠ ("", "[]")) (hstarts' : other.1.toList <+: cs) (hstarts : array.1.toList <+: cs) :
    other = array := by
  have hapart : ∀ other ∈ arraySpellings, ∀ array ∈ arraySpellings, other ≠ ("", "[]") →
      array ≠ ("", "[]") → other.1.toList <+: array.1.toList → other = array := by decide +kernel
  rcases List.prefix_or_prefix_of_prefix hstarts' hstarts with h | h
  · exact hapart other hother array harray hne' hne h
  · exact (hapart array harray other hother hne hne' h).symm

/-- The element type of an array is the type inside the outermost array. -/
theorem IsSpelt.elementType?_eq (h : IsSpelt language (array :: arrays) base) :
    elementType? (wrap array (spelt arrays base)) = some (spelt arrays base) := by
  have hfeed : '\n' ∉ wrap array (spelt arrays base) := h.notMem (by decide) (by decide)
  have hown : enclosed? array.1.toList array.2.toList (wrap array (spelt arrays base)) =
      some (spelt arrays base) := (enclosed?_eq_some_iff hfeed).2 rfl
  by_cases hne : array = ("", "[]")
  · subst hne
    rw [elementType?, arraySpellings, List.findSome?_cons, hown]
  · have hother : ∀ other ∈ arraySpellings, ∀ found,
        enclosed? other.1.toList other.2.toList (wrap array (spelt arrays base)) = some found →
        other = array := by
      intro other hmem found hfound
      rw [enclosed?_eq_some_iff hfeed] at hfound
      by_cases hne' : other = ("", "[]")
      · subst hne'
        exact absurd ⟨_, hfound.symm⟩ (h.not_brackets_suffix hne)
      · have hstarts : array.1.toList <+: wrap array (spelt arrays base) := by
          rw [wrap_eq, List.append_assoc]
          exact List.prefix_append _ _
        have hstarts' : other.1.toList <+: wrap array (spelt arrays base) := by
          rw [hfound, List.append_assoc]
          exact List.prefix_append _ _
        exact eq_of_openings hmem hne' h.head_mem hne hstarts' hstarts
    obtain ⟨found, hfound⟩ : ∃ found, elementType? (wrap array (spelt arrays base)) = some found := by
      rw [← Option.isSome_iff_exists, elementType?, List.findSome?_isSome_iff]
      exact ⟨array, h.head_mem, by rw [hown]; rfl⟩
    obtain ⟨other, hmem, hsome⟩ := List.exists_of_findSome?_eq_some hfound
    rw [hother other hmem found hsome, hown] at hsome
    rw [hfound, hsome]

/-- Every array is written with a character that no name has. -/
theorem exists_mark (harray : array ∈ arraySpellings) (element : List Char) :
    ∃ c ∈ wrap array element, isNameChar c = false := by
  have hmarked : ∀ array ∈ arraySpellings,
      (array.1.toList ++ array.2.toList).any (!isNameChar ·) = true := by decide +kernel
  obtain ⟨c, hc, hname⟩ := List.any_eq_true.1 (hmarked array harray)
  refine ⟨c, ?_, by simpa using hname⟩
  rw [wrap_eq]
  rcases List.mem_append.1 hc with hc | hc <;> simp [hc]

/-- A name has no element type. -/
theorem IsSpelt.elementType?_base (h : IsSpelt language [] base) : elementType? base = none := by
  have hfeed : '\n' ∉ base := h.notMem (c := '\n') (by decide) (by decide)
  rw [elementType?, List.findSome?_eq_none_iff]
  intro array harray
  rw [Option.eq_none_iff_forall_ne_some]
  intro found hfound
  rw [enclosed?_eq_some_iff hfeed] at hfound
  obtain ⟨c, hc, hname⟩ := exists_mark harray found
  rw [wrap_eq, ← hfound] at hc
  rw [h.base_chars c hc] at hname
  cases hname

/-! ## Optionals -/

/-- The name that a text starts with. -/
def leadingName (cs : List Char) : List Char :=
  cs.takeWhile isNameChar

/-- A text goes on behind a name with a character that no name has, if it goes on. -/
def EndsName (rest : List Char) : Prop :=
  ∀ c ∈ rest.head?, isNameChar c = false

/-- The leading name of a text is what comes before the first other character. -/
theorem leadingName_append {name rest : List Char} (hname : ∀ c ∈ name, isNameChar c = true)
    (hrest : EndsName rest) : leadingName (name ++ rest) = name := by
  have hnone : rest.takeWhile isNameChar = [] := by
    cases rest with
    | nil => rfl
    | cons c rest =>
        rw [List.takeWhile_cons, hrest c rfl]
        rfl
  rw [leadingName, List.takeWhile_append_of_pos hname, hnone, List.append_nil]

/-- An opening that is written starts with a name of its own. -/
theorem leadingName_opening (harray : array ∈ arraySpellings) (hne : array ≠ ("", "[]"))
    (rest : List Char) : leadingName (array.1.toList ++ rest) ≠ "Optional".toList := by
  have hopenings : ∀ array ∈ arraySpellings, array ≠ ("", "[]") →
      (array.1.toList.takeWhile isNameChar).length ≠ array.1.toList.length ∧
        array.1.toList.takeWhile isNameChar ≠ "Optional".toList := by decide +kernel
  obtain ⟨hlength, hname⟩ := hopenings array harray hne
  rw [leadingName, List.takeWhile_append, if_neg hlength]
  exact hname

/-- An array type that starts with the name `Optional` is of a type with that name, and no opening
stands before it. -/
theorem IsSpelt.of_leadingName (h : IsSpelt language arrays base) {rest : List Char}
    (hrest : EndsName rest) (hlead : leadingName (spelt arrays base ++ rest) = "Optional".toList) :
    base = "Optional".toList ∧ ∀ array ∈ arrays, array = ("", "[]") := by
  induction arrays generalizing rest with
  | nil => exact ⟨(leadingName_append h.base_chars hrest).symm.trans hlead, by simp⟩
  | cons array arrays ih =>
      rw [spelt_cons, wrap_eq, List.append_assoc, List.append_assoc] at hlead
      by_cases hne : array = ("", "[]")
      · have hrest' : EndsName ("[]".toList ++ rest) := by
          intro c hc
          cases hc
          decide
        rw [hne] at hlead
        obtain ⟨hbase, hsuffixes⟩ := ih h.tail hrest' hlead
        exact ⟨hbase, List.forall_mem_cons.2 ⟨hne, hsuffixes⟩⟩
      · exact absurd hlead (leadingName_opening h.head_mem hne _)

/-- Arrays of a type named `Optional` that are all written behind the name. -/
def LooksOptional (arrays : List (String × String)) (base : List Char) : Prop :=
  base = "Optional".toList ∧ arrays ≠ [] ∧ ∀ array ∈ arrays, array = ("", "[]")

/-- Only arrays of a type named `Optional` that are all written behind the name look like an
optional. -/
theorem IsSpelt.looksOptional (h : IsSpelt language arrays base)
    (hopens : "Optional[".toList <+: spelt arrays base) : LooksOptional arrays base := by
  have hopening : "Optional[".toList = "Optional".toList ++ ['['] := by decide
  obtain ⟨rest, hrest⟩ := hopens
  have hlead : leadingName (spelt arrays base ++ []) = "Optional".toList := by
    rw [List.append_nil, ← hrest, hopening, List.append_assoc]
    have hname : "Optional".toList.all isNameChar = true := by decide
    apply leadingName_append (List.all_eq_true.1 hname)
    intro c hc
    cases hc
    decide
  obtain ⟨hbase, hsuffixes⟩ := h.of_leadingName (by simp [EndsName]) hlead
  refine ⟨hbase, ?_, hsuffixes⟩
  rintro rfl
  rw [spelt_nil, hbase] at hrest
  have hlength := congrArg List.length hrest
  simp at hlength

end Schema
end CrossAudit
