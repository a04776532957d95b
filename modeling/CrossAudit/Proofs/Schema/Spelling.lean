import CrossAudit.Proofs.Http.Union
import CrossAudit.Proofs.Schema.ArrayText

/-!
# The shared vocabulary does not depend on spelling

A field type is a name, a number of arrays around it, and perhaps a mark that it may have no value.
However these are spelled, the shared vocabulary has one word for the name and puts it into as many
array levels.  There is one exception: optionals are looked for in every language, and before
arrays, so array brackets behind a type named `Optional` are taken for an optional of nothing.

Main results:

- Theorem `normalizeFrom_spelt`: what becomes of a type that does not look like an optional.
- Theorem `normalizeFrom_spelt_iff`: when an array type is put into array levels.
- Theorem `normalizeFrom_mark_iff`, `normalize_text_iff`: the same for a type that may have no
  value.
- Theorem `optionals_lost`: an array of optionals that is lost.
-/

namespace CrossAudit
namespace Schema

open Http (emptyTypes dropEmptyTypes)

variable {language : String} {array : String × String} {arrays : List (String × String)}
  {base : List Char} {fuel : Nat}

/-! ## One level -/

/-- The word for a type without marks: an array, or a name. -/
def wordOf (language : String) (fuel : Nat) (cs : List Char) : String :=
  if bareArrays.contains (String.ofList cs) then "array<any>"
  else
    match elementType? cs with
    | some element => arrayOf (normalizeFrom language fuel (Chars.cut ',' element).1)
    | none => baseType language (String.ofList cs)

/-- One round of normalization takes the marks off and looks at the rest. -/
theorem normalizeFrom_succ {cs : List Char} (h : cs ≠ []) (language : String) (fuel : Nat) :
    normalizeFrom language (fuel + 1) cs =
      some (wordOf language fuel (dropEmptyTypes (dropOptional cs))) := by
  have hstep : normalizeFrom language (fuel + 1) cs =
      if cs.isEmpty then none
      else if bareArrays.contains (String.ofList (dropEmptyTypes (dropOptional cs))) then
        some "array<any>"
      else
        match elementType? (dropEmptyTypes (dropOptional cs)) with
        | some element => some (arrayOf (normalizeFrom language fuel (Chars.cut ',' element).1))
        | none => some (baseType language (String.ofList (dropEmptyTypes (dropOptional cs)))) := rfl
  rw [hstep, if_neg (by rwa [List.isEmpty_iff]), wordOf]
  split_ifs
  · rfl
  · cases elementType? (dropEmptyTypes (dropOptional cs)) <;> rfl

/-- The word for a name. -/
def baseWord (language name : String) : String :=
  if bareArrays.contains name then "array<any>" else baseType language name

/-- Where no array is spelt, what is left is the word of the base name. -/
theorem wordOf_base (h : IsSpelt language [] base) :
    wordOf language fuel base = baseWord language (String.ofList base) := by
  rw [wordOf, h.elementType?_base, baseWord]

/-- A name that a language does not know is its own word, and the words of the others have names. -/
theorem baseType_ne_empty {name : String} (h : name ≠ "") : baseType language name ≠ "" := by
  have htable : ∀ table : List (String × String), "" ∉ table.map (·.2) →
      (table.lookup name).getD name ≠ "" := by
    intro table hvalues hempty
    rcases Assoc.getD_lookup_cases table name name with hname | hvalue
    · exact h (hname.symm.trans hempty)
    · rw [hempty] at hvalue
      exact hvalues hvalue
  unfold baseType
  apply htable
  split_ifs <;> decide

/-- The word of a name is not empty. -/
theorem baseWord_ne_empty (language : String) {name : String} (h : name ≠ "") :
    baseWord language name ≠ "" := by
  rw [baseWord]
  split
  · decide
  · exact baseType_ne_empty h

/-- The name that an element type has in an array. -/
def elementName (element : Option String) : String :=
  if element.getD "" == "" then "any" else element.getD ""

/-- An array is written around the word of its element. -/
theorem arrayOf_eq (element : Option String) : arrayOf element = nested 1 (elementName element) :=
  rfl

/-- The name of an element is its word. -/
theorem elementName_some {word : String} (h : word ≠ "") : elementName (some word) = word := by
  simp [elementName, h]

/-! ## Array types -/

/-- Spelling arrays around a name removes no character of it. -/
theorem IsSpelt.base_subset (h : IsSpelt language arrays base) : base ⊆ spelt arrays base := by
  induction arrays with
  | nil => exact List.Subset.refl base
  | cons array arrays ih =>
      rw [spelt_cons, wrap_eq]
      exact List.Subset.trans (ih h.tail)
        (List.Subset.trans (List.subset_append_right _ _) (List.subset_append_left _ _))

/-- Every array spelling makes a text longer, which is what the recursion descends on. -/
theorem length_lt_length_wrap (harray : array ∈ arraySpellings) (cs : List Char) :
    cs.length < (wrap array cs).length := by
  have hpositive : ∀ array ∈ arraySpellings, 0 < array.1.toList.length + array.2.toList.length := by
    decide
  have hlength := hpositive array harray
  rw [wrap_eq, List.length_append, List.length_append]
  omega

/-- An array type with an element type has characters of names and others, so it is none of the
names that have only ones of one kind. -/
theorem IsSpelt.notMem_of_uniform (h : IsSpelt language (array :: arrays) base)
    {names : List String} (hnames : ∀ name ∈ names, name.toList.all isNameChar = true ∨
      name.toList.any isNameChar = false) :
    String.ofList (wrap array (spelt arrays base)) ∉ names := by
  intro hmem
  obtain ⟨c, hc⟩ := List.exists_mem_of_ne_nil base h.base_ne
  obtain ⟨d, hd, hmark⟩ := exists_mark h.head_mem (spelt arrays base)
  have hall := hnames _ hmem
  rw [String.toList_ofList, List.all_eq_true, List.any_eq_false] at hall
  rcases hall with hall | hall
  · rw [hall d hd] at hmark
    cases hmark
  · exact hall c (h.base_subset hc) (h.base_chars c hc)

/-- The word for an array is the array of what its element type is found to be. -/
theorem wordOf_wrap (h : IsSpelt language (array :: arrays) base) :
    wordOf language fuel (wrap array (spelt arrays base)) =
      arrayOf (normalizeFrom language fuel (spelt arrays base)) := by
  have hbare : bareArrays.contains (String.ofList (wrap array (spelt arrays base))) = false := by
    rw [← Bool.not_eq_true, List.contains_iff_mem]
    exact h.notMem_of_uniform (by decide +kernel)
  have hcomma : ',' ∉ spelt arrays base := h.tail.notMem (by decide) (by decide)
  simp only [wordOf, hbare, h.elementType?_eq, Chars.cut_of_notMem hcomma, Bool.false_eq_true, if_false]

/-! ## Optionals -/

/-- A spelt type has no blanks at its ends. -/
theorem strip_spelt (h : IsSpelt language arrays base) :
    Chars.strip (spelt arrays base) = spelt arrays base :=
  Chars.strip_eq_self fun _ hc => h.isBlank_eq_false hc

/-- No array type starts with a pointer star. -/
theorem head?_spelt_ne_star (h : IsSpelt language arrays base) :
    (spelt arrays base).head? ≠ some '*' := by
  intro hstar
  exact h.notMem (by decide) (by decide) (List.mem_of_head? hstar)

/-- A text that starts with no star keeps its start. -/
theorem trimLeft_star {cs : List Char} (h : cs.head? ≠ some '*') :
    Chars.trimLeft (· == '*') cs = cs := by
  rw [Chars.trimLeft, Chars.dropWhile_eq_self_iff_head?]
  intro c hc
  rw [beq_eq_false_iff_ne]
  rintro rfl
  exact h hc

/-- A text without blanks and stars at its ends that is no optional is left as it is. -/
theorem dropOptional_eq_self {cs : List Char} (hstrip : Chars.strip cs = cs)
    (hstar : cs.head? ≠ some '*') (hfeed : '\n' ∉ cs)
    (h : ∀ inner, cs ≠ "Optional[".toList ++ inner ++ "]".toList) : dropOptional cs = cs := by
  have hnone : enclosed? "Optional[".toList "]".toList cs = none := by
    rw [Option.eq_none_iff_forall_ne_some]
    intro inner hinner
    exact h inner ((enclosed?_eq_some_iff hfeed).1 hinner)
  simp only [dropOptional, hstrip, trimLeft_star hstar, hnone]

/-- An optional stands for what it holds. -/
theorem dropOptional_optional {inner : List Char} (hfeed : '\n' ∉ inner) :
    dropOptional ("Optional[".toList ++ inner ++ "]".toList) = Chars.strip inner := by
  have hstrip : Chars.strip ("Optional[".toList ++ inner ++ "]".toList) =
      "Optional[".toList ++ inner ++ "]".toList :=
    Chars.strip_between (by decide) (by decide) (by decide) (by decide) inner
  have hstar : ("Optional[".toList ++ inner ++ "]".toList).head? ≠ some '*' := by simp
  have hsome : enclosed? "Optional[".toList "]".toList
      ("Optional[".toList ++ inner ++ "]".toList) = some inner :=
    (enclosed?_eq_some_iff (by simpa using hfeed)).2 rfl
  simp only [dropOptional, hstrip, trimLeft_star hstar, hsome]

/-- A spelt type names no empty type that could be dropped. -/
theorem dropEmptyTypes_spelt (h : IsSpelt language arrays base) :
    dropEmptyTypes (spelt arrays base) = spelt arrays base :=
  Http.dropEmptyTypes_of_notMem (h.notMem (by decide) (by decide))

/-- An array type that does not look like an optional is taken as it is. -/
theorem normalizeFrom_of_not_looksOptional (h : IsSpelt language arrays base)
    (hlooks : ¬ LooksOptional arrays base) : normalizeFrom language (fuel + 1) (spelt arrays base) =
      some (wordOf language fuel (spelt arrays base)) := by
  have hoptional : dropOptional (spelt arrays base) = spelt arrays base := by
    refine dropOptional_eq_self (strip_spelt h) (head?_spelt_ne_star h)
      (h.notMem (by decide) (by decide)) ?_
    intro inner hinner
    apply hlooks (h.looksOptional _)
    rw [hinner, List.append_assoc]
    exact List.prefix_append _ _
  rw [normalizeFrom_succ h.spelt_ne_nil, hoptional, dropEmptyTypes_spelt h]

/-! ## Array levels -/

/-- The innermost array of a type named `Optional` is written behind the name. -/
def ArrayOfOptional (arrays : List (String × String)) (base : List Char) : Prop :=
  base = "Optional".toList ∧ arrays.getLast? = some ("", "[]")

/-- A type that looks optional is an array of what looks so, with no array around it. -/
theorem LooksOptional.arrayOfOptional (h : LooksOptional arrays base) :
    ArrayOfOptional arrays base := by
  obtain ⟨hbase, hne, hsuffixes⟩ := h
  refine ⟨hbase, ?_⟩
  rw [List.getLast?_eq_some_getLast hne, hsuffixes _ (List.getLast_mem hne)]

/-- One more array around an array does not change whether it is one of optional elements. -/
theorem arrayOfOptional_cons_iff (hne : arrays ≠ []) :
    ArrayOfOptional (array :: arrays) base ↔ ArrayOfOptional arrays base := by
  rw [ArrayOfOptional, ArrayOfOptional, List.getLast?_cons_of_ne_nil hne]

/-- A type that is no array is no array of optional elements. -/
theorem not_arrayOfOptional_nil : ¬ ArrayOfOptional [] base := by
  simp [ArrayOfOptional]

/-- A single array of a type named `Optional` that is written behind the name looks like one. -/
theorem looksOptional_of_singleton (h : ArrayOfOptional [array] base) :
    LooksOptional [array] base := by
  obtain ⟨hbase, hlast⟩ := h
  rw [List.getLast?_singleton, Option.some.injEq] at hlast
  exact ⟨hbase, List.cons_ne_nil _ _, by simp [hlast]⟩

/-- A text with a character is not empty. -/
theorem ofList_ne_empty {cs : List Char} (h : cs ≠ []) : String.ofList cs ≠ "" := by
  intro hempty
  apply h
  rw [← String.toList_ofList (l := cs), hempty]
  rfl

/-- A word inside an array is not empty. -/
theorem nested_succ_ne_empty (n : Nat) (word : String) : nested (n + 1) word ≠ "" :=
  nested_succ_ne (by decide)

/-- A word that is not empty stays so under any number of arrays. -/
theorem nested_ne_empty {word : String} (h : word ≠ "") (n : Nat) : nested n word ≠ "" := by
  cases n with
  | zero => exact h
  | succ n => exact nested_succ_ne_empty n word

/-- An array type is put into as many levels as it has arrays, unless its innermost array looks
like an optional. -/
theorem normalizeFrom_spelt (h : IsSpelt language arrays base) (hgood : ¬ ArrayOfOptional arrays base)
    (hfuel : (spelt arrays base).length < fuel) : normalizeFrom language fuel (spelt arrays base) =
      some (nested arrays.length (baseWord language (String.ofList base))) := by
  have hbase := baseWord_ne_empty language (ofList_ne_empty h.base_ne)
  induction arrays generalizing fuel with
  | nil =>
      cases fuel with
      | zero => omega
      | succ fuel =>
          rw [normalizeFrom_of_not_looksOptional h (fun hlooks => hlooks.2.1 rfl), spelt_nil,
            wordOf_base h]
          rfl
  | cons array arrays ih =>
      have hlength := length_lt_length_wrap h.head_mem (spelt arrays base)
      rw [spelt_cons] at hfuel
      cases fuel with
      | zero => omega
      | succ fuel =>
          have hinner : ¬ ArrayOfOptional arrays base := by
            by_cases hne : arrays = []
            · rw [hne]
              exact not_arrayOfOptional_nil
            · rwa [arrayOfOptional_cons_iff hne] at hgood
          have hshort : (spelt arrays base).length < fuel := by omega
          have hword := ih h.tail hinner hshort
          rw [normalizeFrom_of_not_looksOptional h (fun hlooks => hgood hlooks.arrayOfOptional),
            spelt_cons, wordOf_wrap h, hword, arrayOf_eq, elementName_some (nested_ne_empty hbase _)]
          rfl

/-! ## Lost levels -/

/-- Brackets the wrong way round, or nothing: what stands between the first and the last bracket
behind a name. -/
structure IsInverted (inner : List Char) : Prop where
  head : ∀ c ∈ inner.head?, c = ']'
  last : ∀ c ∈ inner.getLast?, c = '['

/-- Arrays that are all written as suffixes leave a pair of brackets the wrong way round. -/
theorem exists_inverted (base : List Char) (hne : arrays ≠ [])
    (h : ∀ array ∈ arrays, array = ("", "[]")) :
    ∃ inner, spelt arrays base = base ++ '[' :: inner ++ [']'] ∧ IsInverted inner := by
  induction arrays with
  | nil => exact absurd rfl hne
  | cons array arrays ih =>
      obtain ⟨rfl, hrest⟩ := List.forall_mem_cons.1 h
      by_cases hnil : arrays = []
      · refine ⟨[], ?_, by simp, by simp⟩
        simp [hnil, wrap_eq]
      · obtain ⟨inner, hspelt, hinverted⟩ := ih hnil hrest
        refine ⟨inner ++ [']', '['], ?_, ?_, by simp⟩
        · simp [wrap_eq, hspelt]
        · intro c hc
          cases inner with
          | nil =>
              cases hc
              rfl
          | cons d inner => exact hinverted.head c hc

variable {inner : List Char}

/-- Brackets the wrong way round are no name. -/
theorem IsInverted.notMem (h : IsInverted inner) {names : List String}
    (hnames : ∀ name ∈ names, name.toList.head?.any (· != ']') = true) :
    String.ofList inner ∉ names := by
  intro hmem
  obtain ⟨c, hc, hother⟩ := (Option.any_eq_true _ _).1 (hnames _ hmem)
  rw [String.toList_ofList] at hc
  exact bne_iff_ne.1 hother (h.head c hc)

/-- Brackets the wrong way round are no array. -/
theorem IsInverted.elementType?_eq_none (h : IsInverted inner) (hfeed : '\n' ∉ inner) :
    elementType? inner = none := by
  have hends : ∀ array ∈ arraySpellings, array.1.toList.head?.any (· != ']') = true ∨
      array.2.toList.getLast?.any (· != '[') = true := by decide
  rw [elementType?, List.findSome?_eq_none_iff]
  intro array harray
  rw [Option.eq_none_iff_forall_ne_some]
  intro found hfound
  rw [enclosed?_eq_some_iff hfeed] at hfound
  rcases hends array harray with hopening | hending
  · obtain ⟨c, hc, hother⟩ := (Option.any_eq_true _ _).1 hopening
    refine bne_iff_ne.1 hother (h.head c ?_)
    rw [hfound, List.append_assoc, List.head?_append, hc]
    rfl
  · obtain ⟨c, hc, hother⟩ := (Option.any_eq_true _ _).1 hending
    refine bne_iff_ne.1 hother (h.last c ?_)
    rw [hfound, List.getLast?_append, hc]
    rfl

/-- So they are their own word. -/
theorem IsInverted.wordOf_eq (h : IsInverted inner) (hfeed : '\n' ∉ inner) :
    wordOf language fuel inner = String.ofList inner := by
  have hbare : String.ofList inner ∉ bareArrays := h.notMem (by decide)
  have htable : ∀ table : List (String × String),
      (∀ name ∈ table.map (·.1), name.toList.head?.any (· != ']') = true) →
      (table.lookup (String.ofList inner)).getD (String.ofList inner) = String.ofList inner := by
    intro table hkeys
    have hnone : table.lookup (String.ofList inner) = none := by
      rw [List.lookup_eq_none_iff]
      intro p hp
      rw [bne_iff_ne]
      intro hkey
      apply h.notMem hkeys
      rw [hkey]
      exact List.mem_map_of_mem hp
    rw [hnone]
    rfl
  have hbase : baseType language (String.ofList inner) = String.ofList inner := by
    unfold baseType
    apply htable
    split_ifs <;> decide
  simp only [wordOf, List.contains_iff_mem, hbare, if_false, h.elementType?_eq_none hfeed, hbase]

/-- An array type that looks like an optional is taken for what stands between its brackets. -/
theorem normalizeFrom_of_looksOptional (h : IsSpelt language arrays base)
    (hlooks : LooksOptional arrays base) (fuel : Nat) : ∃ inner, IsInverted inner ∧
      normalizeFrom language (fuel + 1) (spelt arrays base) = some (String.ofList inner) := by
  obtain ⟨hbase, hne, hsuffixes⟩ := hlooks
  obtain ⟨inner, hspelt, hinverted⟩ := exists_inverted base hne hsuffixes
  have hopening : "Optional[".toList = "Optional".toList ++ ['['] := by decide
  have hclosing : "]".toList = [']'] := by decide
  have hoptional : spelt arrays base = "Optional[".toList ++ inner ++ "]".toList := by
    rw [hspelt, hbase, hopening, hclosing]
    simp
  have hsubset : inner ⊆ spelt arrays base := by
    rw [hoptional]
    exact List.Subset.trans (List.subset_append_right _ _) (List.subset_append_left _ _)
  have hfeed : '\n' ∉ inner := fun hmem => h.notMem (by decide) (by decide) (hsubset hmem)
  have hbar : '|' ∉ inner := fun hmem => h.notMem (by decide) (by decide) (hsubset hmem)
  have hstrip : Chars.strip inner = inner :=
    Chars.strip_eq_self fun c hc => h.isBlank_eq_false (hsubset hc)
  have hempty : dropEmptyTypes inner = inner := Http.dropEmptyTypes_of_notMem hbar
  refine ⟨inner, hinverted, ?_⟩
  rw [normalizeFrom_succ h.spelt_ne_nil, hoptional, dropOptional_optional hfeed, hstrip, hempty,
    hinverted.wordOf_eq hfeed]

/-- Inside an array, an array type with an innermost array that looks like an optional is not what
stands for its levels. -/
theorem elementName_ne_nested (h : IsSpelt language arrays base) (hlost : ArrayOfOptional arrays base)
    (hfuel : (spelt arrays base).length < fuel) (word : String) :
    elementName (normalizeFrom language fuel (spelt arrays base)) ≠ nested arrays.length word := by
  induction arrays generalizing fuel with
  | nil => exact absurd hlost not_arrayOfOptional_nil
  | cons array arrays ih =>
      have hlength := length_lt_length_wrap h.head_mem (spelt arrays base)
      rw [spelt_cons] at hfuel
      cases fuel with
      | zero => omega
      | succ fuel =>
          rw [List.length_cons]
          by_cases hlooks : LooksOptional (array :: arrays) base
          · obtain ⟨inner, hinverted, hinner⟩ := normalizeFrom_of_looksOptional h hlooks fuel
            rw [hinner]
            cases inner with
            | nil => exact (nested_succ_ne_any arrays.length word).symm
            | cons c inner =>
                rw [elementName_some (ofList_ne_empty (List.cons_ne_nil c inner)),
                  hinverted.head c rfl]
                have hbracket : isArray (String.ofList (']' :: inner)) = false := by
                  simp [isArray, Text.startsWith, List.isPrefixOf]
                exact (nested_succ_ne hbracket).symm
          · have hne : arrays ≠ [] := by
              rintro rfl
              exact hlooks (looksOptional_of_singleton hlost)
            have hshort : (spelt arrays base).length < fuel := by omega
            have hinner := ih h.tail ((arrayOfOptional_cons_iff hne).1 hlost) hshort
            rw [normalizeFrom_of_not_looksOptional h hlooks, spelt_cons, wordOf_wrap h, arrayOf_eq,
              elementName_some (nested_succ_ne_empty 0 _), ne_eq, nested_succ_inj]
            exact hinner

/-- An array type is put into as many levels as it has arrays, unless its innermost array looks
like an optional. -/
theorem normalizeFrom_spelt_iff (h : IsSpelt language arrays base)
    (hfuel : (spelt arrays base).length < fuel) :
    normalizeFrom language fuel (spelt arrays base) =
        some (nested arrays.length (baseWord language (String.ofList base))) ↔
      ¬ ArrayOfOptional arrays base := by
  constructor
  · intro hword hlost
    have hbase := baseWord_ne_empty language (ofList_ne_empty h.base_ne)
    apply elementName_ne_nested h hlost hfuel (baseWord language (String.ofList base))
    rw [hword, elementName_some (nested_ne_empty hbase _)]
  · exact fun hgood => normalizeFrom_spelt h hgood hfuel

/-- Where no optional is looked for on the outside, the outermost array cannot be lost. -/
theorem wordOf_spelt_iff (h : IsSpelt language arrays base)
    (hfuel : (spelt arrays base).length ≤ fuel) :
    wordOf language fuel (spelt arrays base) =
        nested arrays.length (baseWord language (String.ofList base)) ↔
      ¬ ArrayOfOptional arrays.tail base := by
  cases arrays with
  | nil =>
      rw [spelt_nil, wordOf_base h]
      exact iff_of_true rfl not_arrayOfOptional_nil
  | cons array arrays =>
      have hlength := length_lt_length_wrap h.head_mem (spelt arrays base)
      rw [spelt_cons] at hfuel
      have hshort : (spelt arrays base).length < fuel := by omega
      rw [spelt_cons, wordOf_wrap h, arrayOf_eq, List.length_cons, nested_succ_inj, nested_zero,
        List.tail_cons]
      constructor
      · exact fun hword hlost => elementName_ne_nested h.tail hlost hshort _ hword
      · intro hgood
        have hbase := baseWord_ne_empty language (ofList_ne_empty h.base_ne)
        rw [normalizeFrom_spelt h.tail hgood hshort, elementName_some (nested_ne_empty hbase _)]

/-! ## Types that may have no value -/

/-- How a type is marked that may have no value: not at all, as an optional, by a pointer star, or
by a union with an empty type, which stands last or first. -/
inductive Nullability where
  | required
  | optional
  | pointer
  | last (empty : String)
  | first (empty : String)

/-- The marks that a language has; unions are understood in all of them. -/
def Nullability.Fits (language : String) : Nullability → Prop
  | .required => True
  | .optional => language = "python"
  | .pointer => language = "go"
  | .last empty => empty ∈ emptyTypes
  | .first empty => empty ∈ emptyTypes

/-- The text of a type with its mark. -/
def Nullability.mark : Nullability → List Char → List Char
  | .required, cs => cs
  | .optional, cs => "Optional[".toList ++ cs ++ "]".toList
  | .pointer, cs => '*' :: cs
  | .last empty, cs => cs ++ " | ".toList ++ empty.toList
  | .first empty, cs => empty.toList ++ " | ".toList ++ cs

@[simp]
theorem mark_required (cs : List Char) : Nullability.required.mark cs = cs :=
  rfl

@[simp]
theorem mark_optional (cs : List Char) :
    Nullability.optional.mark cs = "Optional[".toList ++ cs ++ "]".toList :=
  rfl

@[simp]
theorem mark_pointer (cs : List Char) : Nullability.pointer.mark cs = '*' :: cs :=
  rfl

@[simp]
theorem mark_last (empty : String) (cs : List Char) :
    (Nullability.last empty).mark cs = cs ++ " | ".toList ++ empty.toList :=
  rfl

@[simp]
theorem mark_first (empty : String) (cs : List Char) :
    (Nullability.first empty).mark cs = empty.toList ++ " | ".toList ++ cs :=
  rfl

/-- A mark only adds to a text. -/
theorem length_le_length_mark (nullability : Nullability) (cs : List Char) :
    cs.length ≤ (nullability.mark cs).length := by
  cases nullability with
  | required => exact le_rfl
  | optional => rw [mark_optional, List.length_append, List.length_append]; omega
  | pointer => exact Nat.le_succ _
  | last empty => rw [mark_last, List.length_append, List.length_append]; omega
  | first empty => rw [mark_first, List.length_append]; omega

/-- The arrays that an optional is looked for in: a union is no optional, whatever it is of. -/
def Nullability.searched : Nullability → List (String × String) → List (String × String)
  | .last _, arrays => arrays.tail
  | .first _, arrays => arrays.tail
  | _, arrays => arrays

/-- A field type as it is written in a language: a name, the arrays around it from the outermost
on, and how it is marked if it may have no value. -/
structure TypeText (language : String) where
  base : String
  arrays : List (String × String)
  nullability : Nullability
  base_ne : base ≠ ""
  base_chars : ∀ c ∈ base.toList, isNameChar c = true
  base_notEmpty : base ∉ emptyTypes
  arrays_mem : ∀ array ∈ arrays, array ∈ spellings language
  fits : nullability.Fits language

namespace TypeText

/-- The text of a field type. -/
def text (t : TypeText language) : String :=
  String.ofList (t.nullability.mark (spelt t.arrays t.base.toList))

/-- The innermost array in which an optional is looked for is written behind the name `Optional`. -/
def LooksOptional (t : TypeText language) : Prop :=
  ArrayOfOptional (t.nullability.searched t.arrays) t.base.toList

/-- A type text is spelt from its arrays and its base name. -/
theorem isSpelt (t : TypeText language) : IsSpelt language t.arrays t.base.toList where
  base_ne := fun hnil => t.base_ne (String.toList_eq_nil_iff.1 hnil)
  base_chars := t.base_chars
  arrays_mem := t.arrays_mem

/-- The base name of a type text is a spelling with no arrays. -/
theorem isSpelt_base (t : TypeText language) : IsSpelt language [] t.base.toList where
  base_ne := t.isSpelt.base_ne
  base_chars := t.base_chars
  arrays_mem := by simp

end TypeText

/-- A name is put into the shared vocabulary by its word. -/
theorem normalize_base (t : TypeText language) :
    normalize language t.base = some (baseWord language t.base) := by
  have hword := normalizeFrom_spelt t.isSpelt_base not_arrayOfOptional_nil
    (Nat.lt_succ_self t.base.toList.length)
  rw [spelt_nil, String.length_toList, String.ofList_toList] at hword
  exact hword

/-- Where no array is written behind its element type, nothing is mistaken for an optional. -/
theorem not_arrayOfOptional_of_notMem (h : ("", "[]") ∉ arrays) : ¬ ArrayOfOptional arrays base := by
  rintro ⟨-, hlast⟩
  exact h (List.mem_of_getLast? hlast)

/-- Python and Go do not write an array as a suffix. -/
theorem suffix_notMem_spellings (h : language = "python" ∨ language = "go") :
    ("", "[]") ∉ spellings language := by
  rcases h with rfl | rfl <;> decide

/-! ## Marks -/

/-- The mark for an optional value is taken off in one round. -/
theorem normalizeFrom_optional (h : IsSpelt language arrays base) :
    normalizeFrom language (fuel + 1) ("Optional[".toList ++ spelt arrays base ++ "]".toList) =
      some (wordOf language fuel (spelt arrays base)) := by
  have hfeed : '\n' ∉ spelt arrays base := h.notMem (by decide) (by decide)
  have hne : "Optional[".toList ++ spelt arrays base ++ "]".toList ≠ [] := by simp
  rw [normalizeFrom_succ hne, dropOptional_optional hfeed, strip_spelt h, dropEmptyTypes_spelt h]

/-- A star in front of a type is taken off with the marks. -/
theorem dropOptional_star {cs : List Char} (hstrip : Chars.strip cs = cs) (hne : cs ≠ [])
    (hstar : cs.head? ≠ some '*') : dropOptional ('*' :: cs) = dropOptional cs := by
  have hstar' : Chars.strip ['*'] = ['*'] := by decide
  have hpointer : Chars.strip ('*' :: cs) = '*' :: cs :=
    Chars.strip_between hstar' (List.cons_ne_nil _ _) hstrip hne []
  have htrim : Chars.trimLeft (· == '*') ('*' :: cs) = cs := by
    rw [Chars.trimLeft, List.dropWhile_cons, if_pos (beq_self_eq_true '*')]
    exact trimLeft_star hstar
  simp only [dropOptional, hpointer, htrim, hstrip, trimLeft_star hstar]

/-- A pointer to a type that does not look optional is normalized as the type. -/
theorem normalizeFrom_pointer (h : IsSpelt language arrays base)
    (hlooks : ¬ LooksOptional arrays base) :
    normalizeFrom language (fuel + 1) ('*' :: spelt arrays base) =
      some (wordOf language fuel (spelt arrays base)) := by
  have hstar := dropOptional_star (strip_spelt h) h.spelt_ne_nil (head?_spelt_ne_star h)
  rw [← normalizeFrom_of_not_looksOptional h hlooks, normalizeFrom_succ (List.cons_ne_nil _ _),
    hstar, normalizeFrom_succ h.spelt_ne_nil]

/-- An array type is none of the empty types if its name is not. -/
theorem IsSpelt.notMem_emptyTypes (h : IsSpelt language arrays base)
    (hbase : String.ofList base ∉ emptyTypes) : String.ofList (spelt arrays base) ∉ emptyTypes := by
  cases arrays with
  | nil => exact hbase
  | cons array arrays => exact h.notMem_of_uniform (by decide +kernel)

/-- The empty types, and what is known of their characters. -/
theorem emptyTypes_ends {empty : String} (h : empty ∈ emptyTypes) : '\n' ∉ empty.toList ∧
    (∃ c, empty.toList.head? = some c ∧ c ≠ '*' ∧ c ≠ 'O') ∧
      ∃ c, empty.toList.getLast? = some c ∧ c ≠ ']' := by
  have hends : ∀ empty ∈ emptyTypes, '\n' ∉ empty.toList ∧
      empty.toList.head?.any (fun c => c != '*' && c != 'O') = true ∧
      empty.toList.getLast?.any (· != ']') = true := by decide
  obtain ⟨hfeed, hhead, hlast⟩ := hends empty h
  obtain ⟨c, hc, hfirst⟩ := (Option.any_eq_true _ _).1 hhead
  obtain ⟨d, hd, hother⟩ := (Option.any_eq_true _ _).1 hlast
  rw [Bool.and_eq_true, bne_iff_ne, bne_iff_ne] at hfirst
  exact ⟨hfeed, ⟨c, hc, hfirst⟩, d, hd, bne_iff_ne.1 hother⟩

/-- A union is no optional. -/
theorem dropOptional_union (h : IsSpelt language arrays base) {empty : String}
    (hempty : empty ∈ emptyTypes) :
    dropOptional (spelt arrays base ++ " | ".toList ++ empty.toList) =
        spelt arrays base ++ " | ".toList ++ empty.toList ∧
      dropOptional (empty.toList ++ " | ".toList ++ spelt arrays base) =
        empty.toList ++ " | ".toList ++ spelt arrays base := by
  obtain ⟨hfeed, ⟨c, hhead, hstar, hname⟩, d, hlast, hclosing⟩ := emptyTypes_ends hempty
  have hstrip := Http.strip_of_mem_emptyTypes hempty
  have hne : empty.toList ≠ [] := by
    intro hnil
    rw [hnil] at hhead
    cases hhead
  have hfeed' : '\n' ∉ spelt arrays base := h.notMem (by decide) (by decide)
  have hmid : '\n' ∉ " | ".toList := by decide
  constructor
  · apply dropOptional_eq_self (Chars.strip_between (strip_spelt h) h.spelt_ne_nil hstrip hne _)
    · rw [List.append_assoc, List.head?_append_of_ne_nil _ h.spelt_ne_nil]
      exact head?_spelt_ne_star h
    · simp only [List.mem_append, not_or]
      exact ⟨⟨hfeed', hmid⟩, hfeed⟩
    · intro inner hinner
      have hends := congrArg List.getLast? hinner
      rw [List.getLast?_append_of_ne_nil _ hne, hlast,
        List.getLast?_append_of_ne_nil _ (by decide)] at hends
      exact hclosing (Option.some.inj hends)
  · apply dropOptional_eq_self (Chars.strip_between hstrip hne (strip_spelt h) h.spelt_ne_nil _)
    · rw [List.append_assoc, List.head?_append, hhead]
      exact fun hc => hstar (Option.some.inj hc)
    · simp only [List.mem_append, not_or]
      exact ⟨⟨hfeed, hmid⟩, hfeed'⟩
    · intro inner hinner
      have hends := congrArg List.head? hinner
      rw [List.append_assoc, List.head?_append, hhead, List.append_assoc,
        List.head?_append_of_ne_nil _ (by decide)] at hends
      exact hname (Option.some.inj hends)

/-- A union with an empty type has the word of the other member. -/
theorem normalizeFrom_union (h : IsSpelt language arrays base)
    (hbase : String.ofList base ∉ emptyTypes) {empty : String} (hempty : empty ∈ emptyTypes) :
    normalizeFrom language (fuel + 1) (spelt arrays base ++ " | ".toList ++ empty.toList) =
        some (wordOf language fuel (spelt arrays base)) ∧
      normalizeFrom language (fuel + 1) (empty.toList ++ " | ".toList ++ spelt arrays base) =
        some (wordOf language fuel (spelt arrays base)) := by
  obtain ⟨hlast, hfirst⟩ := dropOptional_union h hempty
  obtain ⟨hlast', hfirst'⟩ := Http.dropEmptyTypes_union (h.notMem (by decide) (by decide))
    (strip_spelt h) (h.notMem_emptyTypes hbase) hempty
  constructor
  · rw [normalizeFrom_succ (by simp), hlast]
    exact congrArg (fun cs => some (wordOf language fuel cs)) hlast'
  · rw [normalizeFrom_succ (by simp), hfirst]
    exact congrArg (fun cs => some (wordOf language fuel cs)) hfirst'

/-- Where no array is written behind its element type, every level is kept. -/
theorem wordOf_spelt (h : IsSpelt language arrays base)
    (hspelling : ("", "[]") ∉ spellings language)
    (hfuel : (spelt arrays base).length ≤ fuel) : wordOf language fuel (spelt arrays base) =
      nested arrays.length (baseWord language (String.ofList base)) := by
  apply (wordOf_spelt_iff h hfuel).2
  apply not_arrayOfOptional_of_notMem
  exact fun hmem => hspelling (h.arrays_mem _ (List.mem_of_mem_tail hmem))

/-- An array type with a mark is put into as many levels as it has arrays, unless the innermost
array in which an optional is looked for looks like one. -/
theorem normalizeFrom_mark_iff (h : IsSpelt language arrays base)
    (hbase : String.ofList base ∉ emptyTypes) {nullability : Nullability}
    (hfits : nullability.Fits language) (hfuel : (spelt arrays base).length ≤ fuel) :
    normalizeFrom language (fuel + 1) (nullability.mark (spelt arrays base)) =
        some (nested arrays.length (baseWord language (String.ofList base))) ↔
      ¬ ArrayOfOptional (nullability.searched arrays) base := by
  have hnever : ("", "[]") ∉ spellings language → ¬ ArrayOfOptional arrays base :=
    fun hspelling => not_arrayOfOptional_of_notMem fun hmem => hspelling (h.arrays_mem _ hmem)
  cases nullability with
  | required => exact normalizeFrom_spelt_iff h (Nat.lt_succ_of_le hfuel)
  | optional =>
      have hspelling := suffix_notMem_spellings (Or.inl hfits)
      have hword := wordOf_spelt h hspelling hfuel
      exact iff_of_true ((normalizeFrom_optional h).trans (congrArg some hword)) (hnever hspelling)
  | pointer =>
      have hspelling := suffix_notMem_spellings (Or.inr hfits)
      have hword := wordOf_spelt h hspelling hfuel
      have hlooks : ¬ LooksOptional arrays base :=
        fun hlooks => hnever hspelling hlooks.arrayOfOptional
      exact iff_of_true ((normalizeFrom_pointer h hlooks).trans (congrArg some hword))
        (hnever hspelling)
  | last empty =>
      rw [mark_last, (normalizeFrom_union h hbase hfits).1, Option.some.injEq]
      exact wordOf_spelt_iff h hfuel
  | first empty =>
      rw [mark_first, (normalizeFrom_union h hbase hfits).2, Option.some.injEq]
      exact wordOf_spelt_iff h hfuel

/-- A field type is put into as many array levels as it has arrays, around the word for its name,
unless the innermost array in which an optional is looked for is written behind the name
`Optional`. -/
theorem normalize_text_iff (t : TypeText language) :
    ∃ word, normalize language t.base = some word ∧
      (normalize language t.text = some (nested t.arrays.length word) ↔ ¬ t.LooksOptional) := by
  refine ⟨baseWord language t.base, normalize_base t, ?_⟩
  have hname : String.ofList t.base.toList = t.base := String.ofList_toList
  have hbase : String.ofList t.base.toList ∉ emptyTypes := by
    rw [hname]
    exact t.base_notEmpty
  have hfuel := length_le_length_mark t.nullability (spelt t.arrays t.base.toList)
  have hiff := normalizeFrom_mark_iff t.isSpelt hbase t.fits hfuel
  rw [hname] at hiff
  rw [normalize, TypeText.text, String.length_ofList, String.toList_ofList]
  exact hiff

example : normalize "python" "Optional[List[Set[str]]]" = some (nested 2 "string") := by
  decide +kernel

/-- A type named `Optional` in one array, as TypeScript writes it. -/
def optionals (array : String × String) (h : array ∈ spellings "typescript") :
    TypeText "typescript" where
  base := "Optional"
  arrays := [array]
  nullability := .required
  base_ne := by decide
  base_chars := List.all_eq_true.1 (by decide : "Optional".toList.all isNameChar = true)
  base_notEmpty := by decide
  arrays_mem := by simpa using h
  fits := trivial

/-- An array of a type named `Optional` is lost where it is written behind the name, but not in
another spelling or in a union. -/
theorem optionals_lost :
    (optionals ("", "[]") (by decide)).text = "Optional[]" ∧
      (optionals ("Array<", ">") (by decide)).text = "Array<Optional>" ∧
      normalize "typescript" "Optional" = some "Optional" ∧
      nested 1 "Optional" = "array<Optional>" ∧
      normalize "typescript" "Optional[]" = some "" ∧
      normalize "typescript" "Array<Optional>" = some "array<Optional>" ∧
      normalize "typescript" "Optional[] | null" = some "array<Optional>" :=
  ⟨by decide +kernel, by decide +kernel, by decide +kernel, by decide, by decide +kernel,
    by decide +kernel, by decide +kernel⟩

end Schema
end CrossAudit
