import CrossAudit.Http.TypeShape
import CrossAudit.Proofs.Assoc
import CrossAudit.Proofs.Text.Ends
import CrossAudit.Proofs.Text.Pieces

/-!
# Unions with an empty type

A type may be declared nullable by a union with an empty type.  The union stands for the other
member, but only if it is met where it stands: wrappers are looked through before, and not again
afterwards.  So a wrapper in a union is taken as it is written, for an object, or for an array if
array brackets end it, whatever it holds.

Main results:

- Theorem `dropEmptyTypes_union`: a union with an empty type stands for the other member.
- Theorem `shapeOf_wrapper`: the shape that a wrapper has on the outside.
- Theorem `typeShape_nullable`: the shape of a union with an empty type.
-/

namespace CrossAudit

namespace Chars

/-- The two members of a union, without the blanks around them. -/
theorem map_strip_splitOn_union {xs ys : List Char} (hxs : '|' ∉ xs) (hys : '|' ∉ ys) :
    ((xs ++ " | ".toList ++ ys).splitOn '|').map strip = [strip xs, strip ys] := by
  have hleft : '|' ∉ xs ++ [' '] := by simpa using hxs
  have hright : '|' ∉ [' '] ++ ys := by simpa using hys
  have hsplit : (xs ++ " | ".toList ++ ys).splitOn '|' = [xs ++ [' '], [' '] ++ ys] := by
    have hcut : xs ++ " | ".toList ++ ys = (xs ++ [' ']) ++ '|' :: ([' '] ++ ys) := by simp
    rw [hcut, List.splitOn_append_cons_self_of_not_mem hleft, List.splitOn_eq_singleton hright]
  have hblank : ∀ c ∈ [' '], Text.isBlank c = true := by
    intro c hc
    rw [List.mem_singleton.1 hc]
    decide
  rw [hsplit, List.map_cons, List.map_singleton, strip_append_blanks hblank,
    strip_append_of_blank hblank]

end Chars

namespace Http

/-! ## Unions -/

theorem bar_notMem_of_mem_emptyTypes {empty : String} (h : empty ∈ emptyTypes) :
    '|' ∉ empty.toList := by
  revert empty
  decide

theorem strip_of_mem_emptyTypes {empty : String} (h : empty ∈ emptyTypes) :
    Chars.strip empty.toList = empty.toList := by
  revert empty
  decide

theorem dropEmptyTypes_of_notMem {cs : List Char} (h : '|' ∉ cs) : dropEmptyTypes cs = cs := by
  simp [dropEmptyTypes, h]

/-- A union of two types, one of which is empty, stands for the other one. -/
theorem dropEmptyTypes_union {cs : List Char} {empty : String} (hbar : '|' ∉ cs)
    (hstrip : Chars.strip cs = cs) (hcs : String.ofList cs ∉ emptyTypes)
    (hempty : empty ∈ emptyTypes) :
    dropEmptyTypes (cs ++ " | ".toList ++ empty.toList) = cs ∧
      dropEmptyTypes (empty.toList ++ " | ".toList ++ cs) = cs := by
  have hempty' := bar_notMem_of_mem_emptyTypes hempty
  constructor
  · simp only [dropEmptyTypes, Chars.map_strip_splitOn_union hbar hempty', hstrip,
      strip_of_mem_emptyTypes hempty]
    simp [hcs, hempty]
  · simp only [dropEmptyTypes, Chars.map_strip_splitOn_union hempty' hbar, hstrip,
      strip_of_mem_emptyTypes hempty]
    simp [hcs, hempty]

/-! ## Wrappers -/

/-- What follows a name and an opening bracket stands behind the name. -/
theorem exists_of_afterOpening?_eq_some {name : String} {cs rest : List Char}
    (h : afterOpening? name cs = some rest) : name.toList <+: cs ∧ rest <:+ cs := by
  unfold afterOpening? at h
  split at h
  · rename_i c tail hbehind
    split at h
    · rw [Option.some.injEq] at h
      subst h
      obtain ⟨behind, hafter, hdrop⟩ := Option.map_eq_some_iff.1 hbehind
      obtain rfl := Chars.after?_eq_some_iff.1 hafter
      have hbehind : c :: tail <:+ behind := by
        rw [← hdrop]
        exact List.dropWhile_suffix _
      have hinside : c :: tail <:+ name.toList ++ behind :=
        hbehind.trans (List.suffix_append name.toList behind)
      exact ⟨List.prefix_append _ _, (List.suffix_cons c tail).trans hinside⟩
    · cases h
  · cases h

/-- A wrapper starts with its name and ends with a bracket, and what it holds stands before that. -/
theorem exists_of_unwrap?_eq_some {cs inner : List Char} (h : unwrap? cs = some inner) :
    (∃ name ∈ wrappers, name.toList <+: cs) ∧
      ∃ c, closesArguments c = true ∧ inner ++ [c] <:+ cs := by
  obtain ⟨name, hname, hfound⟩ := List.exists_of_findSome?_eq_some h
  split at hfound
  · rename_i rest hafter
    obtain ⟨hstarts, hsuffix⟩ := exists_of_afterOpening?_eq_some hafter
    split at hfound
    · rename_i c hlast
      split at hfound
      · rename_i hcloses
        rw [Option.some.injEq] at hfound
        subst hfound
        refine ⟨⟨name, hname, hstarts⟩, c, (Bool.and_eq_true_iff.1 hcloses).1, ?_⟩
        rwa [List.dropLast_append_getLast? c hlast]
      · cases hfound
    · cases hfound
  · cases hfound

/-- A text that does not end with a closing bracket is no wrapper. -/
theorem unwrap?_eq_none_of_getLast? {cs : List Char}
    (h : cs.getLast?.all (!closesArguments ·) = true) : unwrap? cs = none := by
  rw [Option.eq_none_iff_forall_ne_some]
  intro inner hinner
  obtain ⟨-, c, hcloses, before, rfl⟩ := exists_of_unwrap?_eq_some hinner
  rw [← List.append_assoc, List.getLast?_concat, Option.all_some, hcloses] at h
  cases h

/-- A text that starts with none of their names is no wrapper. -/
theorem unwrap?_eq_none_of_notPrefix {cs : List Char} (h : ∀ name ∈ wrappers, ¬ name.toList <+: cs) :
    unwrap? cs = none := by
  rw [Option.eq_none_iff_forall_ne_some]
  intro inner hinner
  obtain ⟨⟨name, hname, hstarts⟩, -⟩ := exists_of_unwrap?_eq_some hinner
  exact h name hname hstarts

/-- What wrappers hold is part of the text. -/
theorem unwrap_subset (depth : Nat) (cs : List Char) : unwrap depth cs ⊆ cs := by
  induction depth generalizing cs with
  | zero => exact List.Subset.refl cs
  | succ depth ih =>
      rw [unwrap]
      split
      · rename_i inner hinner
        obtain ⟨-, c, -, hsuffix⟩ := exists_of_unwrap?_eq_some hinner
        obtain ⟨front, back, hstrip, -, -⟩ := Chars.exists_eq_strip inner
        have hkept : Chars.strip inner ⊆ inner := by
          intro d hd
          rw [hstrip]
          simp [hd]
        have hinside : inner ⊆ cs :=
          List.Subset.trans (List.subset_append_left inner [c]) hsuffix.subset
        exact List.Subset.trans (ih _) (List.Subset.trans hkept hinside)
      · exact List.Subset.refl cs

theorem unwrap_eq_self {cs : List Char} (h : unwrap? cs = none) (depth : Nat) :
    unwrap depth cs = cs := by
  cases depth with
  | zero => rfl
  | succ depth => rw [unwrap, h]

/-! ## Shapes -/

/-- The shape of a type that is neither a wrapper nor a union. -/
def shapeOf (cs : List Char) : Option String :=
  if cs.isEmpty || silentTypes.contains (String.ofList cs) then none
  else if isArrayType cs then some "array"
  else some ((primitives.lookup (String.ofList cs)).getD "object")

theorem typeShape_eq_shapeOf (text : String) : typeShape text = shapeOf (dropEmptyTypes (unwrap 4
    (Chars.strip (Chars.trimLeft (· == ':') (Chars.strip text.toList))))) :=
  rfl

/-- Every shape has a name. -/
theorem shapeOf_ne_empty (cs : List Char) : shapeOf cs ≠ some "" := by
  have hprimitive : "" ∉ primitives.map (·.2) := by decide
  rw [shapeOf]
  split
  · exact nofun
  · split
    · decide
    · rw [ne_eq, Option.some.injEq]
      rcases Assoc.getD_lookup_cases primitives (String.ofList cs) "object" with h | h
      · rw [h]
        decide
      · intro hshape
        rw [hshape] at h
        exact hprimitive h

theorem typeShape_ne_empty (text : String) : typeShape text ≠ some "" := by
  rw [typeShape_eq_shapeOf]
  exact shapeOf_ne_empty _

/-- A text without blanks around it that does not start with a colon is taken as it is. -/
theorem typeShape_eq {text : String} (hstrip : Chars.strip text.toList = text.toList)
    (hcolon : text.toList.head? ≠ some ':') :
    typeShape text = shapeOf (dropEmptyTypes (unwrap 4 text.toList)) := by
  have htrim : Chars.trimLeft (· == ':') text.toList = text.toList := by
    rw [Chars.trimLeft, Chars.dropWhile_eq_self_iff_head?]
    intro c hc
    rw [beq_eq_false_iff_ne]
    rintro rfl
    exact hcolon hc
  rw [typeShape_eq_shapeOf, hstrip, htrim, hstrip]

/-- Whether a declared type is a wrapper. -/
def isWrapper (type : String) : Bool :=
  (unwrap? type.toList).isSome

/-- The shape of a wrapper as it is written. -/
def wrapperShape (type : String) : String :=
  if Text.endsWith type "[]" then "array" else "object"

/-- A text that ends with a closing bracket is none of some names that do not. -/
theorem notMem_of_closed {type : String} {c : Char} (hlast : type.toList.getLast? = some c)
    (hcloses : closesArguments c = true) {names : List String}
    (h : ∀ name ∈ names, name.toList.getLast?.all (!closesArguments ·) = true) :
    type ∉ names := by
  intro hmem
  have hopen := h type hmem
  rw [hlast, Option.all_some, hcloses] at hopen
  cases hopen

/-- A text does not start with the name of a wrapper and also as an array type does. -/
theorem not_isPrefix_of_wrapper {cs : List Char} {name array : String} (hname : name ∈ wrappers)
    (hstarts : name.toList <+: cs) (harray : array ∈ "[]" :: arrayNames) :
    ¬ array.toList <+: cs := by
  have hapart : ∀ name ∈ wrappers, ∀ array ∈ "[]" :: arrayNames,
      ¬ name.toList <+: array.toList ∧ ¬ array.toList <+: name.toList := by decide +kernel
  intro h
  rcases List.prefix_or_prefix_of_prefix hstarts h with h | h
  · exact (hapart name hname array harray).1 h
  · exact (hapart name hname array harray).2 h

/-- As it is written, a wrapper is an array type only if array brackets end it. -/
theorem isArrayType_of_unwrap? {cs inner : List Char} (h : unwrap? cs = some inner) :
    isArrayType cs = "[]".toList.isSuffixOf cs := by
  obtain ⟨⟨name, hname, hstarts⟩, -⟩ := exists_of_unwrap?_eq_some h
  have hfront : "[]".toList.isPrefixOf cs = false := by
    rw [← Bool.not_eq_true, List.isPrefixOf_iff_prefix]
    exact not_isPrefix_of_wrapper hname hstarts List.mem_cons_self
  have hnames : (arrayNames.any fun array =>
      cs == array.toList || (afterOpening? array cs).isSome) = false := by
    rw [List.any_eq_false]
    intro array harray hfound
    apply not_isPrefix_of_wrapper hname hstarts (List.mem_cons_of_mem _ harray)
    rcases Bool.or_eq_true_iff.1 hfound with hsame | hopened
    · have hcs : cs = array.toList := beq_iff_eq.1 hsame
      exact ⟨[], by rw [List.append_nil, hcs]⟩
    · obtain ⟨rest, hrest⟩ := Option.isSome_iff_exists.1 hopened
      exact (exists_of_afterOpening?_eq_some hrest).1
  rw [isArrayType, hfront, hnames, Bool.or_false, Bool.or_false]

/-- As it is written, a wrapper is an object, or an array if array brackets end it. -/
theorem shapeOf_wrapper {type : String} (h : isWrapper type = true) :
    shapeOf type.toList = some (wrapperShape type) := by
  obtain ⟨inner, hinner⟩ := Option.isSome_iff_exists.1 h
  obtain ⟨-, c, hcloses, before, hbefore⟩ := exists_of_unwrap?_eq_some hinner
  have hlast : type.toList.getLast? = some c := by
    rw [← hbefore, ← List.append_assoc, List.getLast?_concat]
  have hne : type.toList ≠ [] := by
    rintro hnil
    rw [hnil] at hlast
    cases hlast
  have hsilent : type ∉ silentTypes := notMem_of_closed hlast hcloses (by decide +kernel)
  have hprimitive : primitives.lookup type = none := by
    have hnames : type ∉ primitives.map (·.1) := notMem_of_closed hlast hcloses (by decide +kernel)
    rw [List.lookup_eq_none_iff]
    intro p hp
    rw [bne_iff_ne]
    rintro rfl
    exact hnames (List.mem_map_of_mem hp)
  rw [shapeOf, isArrayType_of_unwrap? hinner, String.ofList_toList, hprimitive, wrapperShape,
    Text.endsWith, apply_ite some]
  simp [hne, hsilent]

/-! ## Nullable types -/

/-- A declared type that is neither a union nor empty, without blanks around it. -/
structure IsPlain (type : String) : Prop where
  stripped : Text.strip type = type
  bar : '|' ∉ type.toList
  colon : type.toList.head? ≠ some ':'
  ne : type ≠ ""
  notEmpty : type ∉ emptyTypes

/-- The unions of a type and an empty one, which may stand first or last. -/
inductive IsNullable (type : String) : String → Prop
  | last {empty : String} : empty ∈ emptyTypes → IsNullable type (type ++ " | " ++ empty)
  | first {empty : String} : empty ∈ emptyTypes → IsNullable type (empty ++ " | " ++ type)

theorem IsPlain.strip_toList {type : String} (h : IsPlain type) :
    Chars.strip type.toList = type.toList := by
  have hstrip := congrArg String.toList h.stripped
  rwa [Text.strip, String.toList_ofList] at hstrip

/-- A plain type has the shape that it is written with, unless it is a wrapper. -/
theorem IsPlain.typeShape_eq {type : String} (h : IsPlain type) :
    typeShape type = shapeOf (unwrap 4 type.toList) := by
  rw [Http.typeShape_eq h.strip_toList h.colon, dropEmptyTypes_of_notMem]
  exact fun hbar => h.bar (unwrap_subset 4 _ hbar)

variable {type text : String}

/-- A union is no wrapper: an empty type stands at one of its ends. -/
theorem IsNullable.unwrap?_eq_none (h : IsNullable type text) : unwrap? text.toList = none := by
  cases h with
  | @last empty hempty =>
      have hopen : ∀ empty ∈ emptyTypes, empty.toList ≠ [] ∧
          empty.toList.getLast?.all (!closesArguments ·) = true := by decide +kernel
      obtain ⟨hne, hlast⟩ := hopen empty hempty
      apply unwrap?_eq_none_of_getLast?
      rwa [String.toList_append, List.getLast?_append_of_ne_nil _ hne]
  | @first empty hempty =>
      have hapart : ∀ empty ∈ emptyTypes, ∀ name ∈ wrappers,
          ¬ name.toList <+: empty.toList ∧ ¬ empty.toList <+: name.toList := by decide +kernel
      apply unwrap?_eq_none_of_notPrefix
      intro name hname hstarts
      have hfront : empty.toList <+: (empty ++ " | " ++ type).toList := by
        rw [String.toList_append, String.toList_append, List.append_assoc]
        exact List.prefix_append _ _
      rcases List.prefix_or_prefix_of_prefix hstarts hfront with h | h
      · exact (hapart empty hempty name hname).1 h
      · exact (hapart empty hempty name hname).2 h

/-- No blank stands around a union, and no colon in front of it. -/
theorem IsNullable.ends (h : IsNullable type text) (hplain : IsPlain type) :
    Chars.strip text.toList = text.toList ∧ text.toList.head? ≠ some ':' := by
  have hempties : ∀ empty ∈ emptyTypes, empty.toList ≠ [] ∧ empty.toList.head? ≠ some ':' := by
    decide +kernel
  have hne : type.toList ≠ [] := fun hnil => hplain.ne (String.toList_eq_nil_iff.1 hnil)
  cases h with
  | @last empty hempty =>
      rw [String.toList_append, String.toList_append]
      refine ⟨Chars.strip_between hplain.strip_toList hne (strip_of_mem_emptyTypes hempty)
        (hempties empty hempty).1 _, ?_⟩
      rw [List.append_assoc, List.head?_append_of_ne_nil _ hne]
      exact hplain.colon
  | @first empty hempty =>
      rw [String.toList_append, String.toList_append]
      refine ⟨Chars.strip_between (strip_of_mem_emptyTypes hempty) (hempties empty hempty).1
        hplain.strip_toList hne _, ?_⟩
      rw [List.append_assoc, List.head?_append_of_ne_nil _ (hempties empty hempty).1]
      exact (hempties empty hempty).2

theorem IsNullable.dropEmptyTypes_eq (h : IsNullable type text) (hplain : IsPlain type) :
    dropEmptyTypes text.toList = type.toList := by
  have hnotEmpty : String.ofList type.toList ∉ emptyTypes := by
    rw [String.ofList_toList]
    exact hplain.notEmpty
  cases h with
  | last hempty =>
      rw [String.toList_append, String.toList_append]
      exact (dropEmptyTypes_union hplain.bar hplain.strip_toList hnotEmpty hempty).1
  | first hempty =>
      rw [String.toList_append, String.toList_append]
      exact (dropEmptyTypes_union hplain.bar hplain.strip_toList hnotEmpty hempty).2

/-- A union with an empty type has the shape of the other member, but of a wrapper the shape that it
is written with. -/
theorem typeShape_nullable (hplain : IsPlain type) (h : IsNullable type text) :
    typeShape text = if isWrapper type then some (wrapperShape type) else typeShape type := by
  obtain ⟨hstrip, hcolon⟩ := h.ends hplain
  have houter : typeShape text = shapeOf type.toList := by
    rw [typeShape_eq hstrip hcolon, unwrap_eq_self h.unwrap?_eq_none, h.dropEmptyTypes_eq hplain]
  rw [houter]
  split
  · rename_i hwrapper
    exact shapeOf_wrapper hwrapper
  · rename_i hwrapper
    rw [isWrapper, Option.not_isSome_iff_eq_none] at hwrapper
    rw [hplain.typeShape_eq, unwrap_eq_self hwrapper]

end Http
end CrossAudit
