import CrossAudit.Text.Blank
import Mathlib.Data.List.Basic
import Mathlib.Data.List.DropRight
import Mathlib.Data.List.TakeWhile
import Mathlib.Tactic.Common

/-!
# Blanks at the ends of a text

Main results:

- Theorem `strip_eq_self_iff`: a text is left as it is exactly if no blank stands at its ends.
- Theorem `exists_eq_strip`: what is dropped are blanks in front and behind.
- Theorem `exists_strip_append`: blanks behind a text are kept if a text is added.
-/

namespace CrossAudit
namespace Chars

variable {cs blanks : List Char}

/-- The first character that is kept is none of the class that is dropped. -/
theorem dropWhile_eq_self_iff_head? (p : Char → Bool) (cs : List Char) :
    cs.dropWhile p = cs ↔ ∀ c ∈ cs.head?, p c = false := by
  cases cs with
  | nil => simp
  | cons c cs =>
      rw [List.dropWhile_eq_self_iff]
      simp

/-- A text is left as it is exactly if no blank stands at its ends. -/
theorem strip_eq_self_iff : strip cs = cs ↔
    (∀ c ∈ cs.head?, Text.isBlank c = false) ∧ ∀ c ∈ cs.getLast?, Text.isBlank c = false := by
  have hlast : cs.getLast? = cs.reverse.head? := List.head?_reverse.symm
  rw [hlast, ← dropWhile_eq_self_iff_head?, ← dropWhile_eq_self_iff_head?]
  constructor
  · intro h
    have hlength : (cs.dropWhile Text.isBlank).length = cs.length := by
      apply le_antisymm (List.length_dropWhile_le _ _)
      calc
        cs.length = (strip cs).length := by rw [h]
        _ = ((cs.dropWhile Text.isBlank).reverse.dropWhile Text.isBlank).length := by
          simp [strip, trimRight, trimLeft]
        _ ≤ (cs.dropWhile Text.isBlank).reverse.length := List.length_dropWhile_le _ _
        _ = (cs.dropWhile Text.isBlank).length := List.length_reverse
    have hleft : cs.dropWhile Text.isBlank = cs :=
      (List.dropWhile_suffix _).eq_of_length hlength
    refine ⟨hleft, ?_⟩
    rw [strip, trimLeft, hleft, trimRight] at h
    exact List.reverse_eq_iff.1 h
  · rintro ⟨hleft, hright⟩
    rw [strip, trimLeft, hleft, trimRight, hright, List.reverse_reverse]

/-- A text without blanks has none at its ends. -/
theorem strip_eq_self (h : ∀ c ∈ cs, Text.isBlank c = false) : strip cs = cs :=
  strip_eq_self_iff.2
    ⟨fun c hc => h c (List.mem_of_head? hc), fun c hc => h c (List.mem_of_getLast? hc)⟩

/-- Whatever stands between two texts, the ends are those of the texts. -/
theorem strip_between {xs ys : List Char} (hxs : strip xs = xs) (hne : xs ≠ []) (hys : strip ys = ys)
    (hne' : ys ≠ []) (mid : List Char) : strip (xs ++ mid ++ ys) = xs ++ mid ++ ys := by
  rw [strip_eq_self_iff] at hxs hys ⊢
  constructor
  · intro c hc
    apply hxs.1 c
    rwa [List.append_assoc, List.head?_append_of_ne_nil _ hne] at hc
  · intro c hc
    apply hys.2 c
    rwa [List.getLast?_append_of_ne_nil _ hne'] at hc

/-- Blanks in front of a text do not count. -/
theorem strip_append_of_blank (h : ∀ c ∈ blanks, Text.isBlank c = true) (cs : List Char) :
    strip (blanks ++ cs) = strip cs := by
  rw [strip, strip, trimLeft, trimLeft, List.dropWhile_append_of_pos h]

/-- Blanks behind a text do not count. -/
theorem strip_append_blanks (h : ∀ c ∈ blanks, Text.isBlank c = true) (cs : List Char) :
    strip (cs ++ blanks) = strip cs := by
  have hback : ∀ c ∈ blanks.reverse, Text.isBlank c = true := fun c hc => h c (List.mem_reverse.1 hc)
  rw [strip, strip, trimLeft, trimLeft, List.dropWhile_append]
  split
  · rename_i hnone
    rw [List.isEmpty_iff.1 hnone, List.dropWhile_eq_nil_iff.2 h]
  · rw [trimRight, trimRight, List.reverse_append, List.dropWhile_append_of_pos hback]

/-- What is dropped from a text are blanks in front and behind. -/
theorem exists_eq_strip (cs : List Char) : ∃ front back, cs = front ++ strip cs ++ back ∧
    (∀ c ∈ front, Text.isBlank c = true) ∧ ∀ c ∈ back, Text.isBlank c = true := by
  refine ⟨cs.takeWhile Text.isBlank,
    ((cs.dropWhile Text.isBlank).reverse.takeWhile Text.isBlank).reverse, ?_, ?_, ?_⟩
  · have hback := congrArg List.reverse
      (List.takeWhile_append_dropWhile (p := Text.isBlank) (l := (cs.dropWhile Text.isBlank).reverse))
    rw [List.reverse_append, List.reverse_reverse] at hback
    rw [strip, trimRight, trimLeft, List.append_assoc, hback, List.takeWhile_append_dropWhile]
  · exact fun c hc => List.mem_takeWhile_imp hc
  · exact fun c hc => List.mem_takeWhile_imp (List.mem_reverse.1 hc)

/-- Neither end of what is left is a blank. -/
theorem strip_strip (cs : List Char) : strip (strip cs) = strip cs := by
  have hends : ∀ (xs : List Char), ∀ c ∈ (xs.dropWhile Text.isBlank).head?,
      Text.isBlank c = false := by
    intro xs
    rw [← dropWhile_eq_self_iff_head?, List.dropWhile_idempotent]
  have hstarts : strip cs <+: cs.dropWhile Text.isBlank := by
    rw [← List.reverse_suffix, strip, trimRight, trimLeft, List.reverse_reverse]
    exact List.dropWhile_suffix _
  rw [strip_eq_self_iff]
  constructor
  · intro c hc
    apply hends cs c
    obtain ⟨rest, hrest⟩ := hstarts
    rw [← hrest, List.head?_append, Option.mem_def.1 hc]
    rfl
  · intro c hc
    apply hends (cs.dropWhile Text.isBlank).reverse c
    rwa [strip, trimRight, List.getLast?_reverse] at hc

/-- If a text without blanks at its ends is added to another one, the blanks that stood at the end
of that one are kept, unless it is all blank. -/
theorem exists_strip_append (cs : List Char) : ∃ blanks, (∀ c ∈ blanks, Text.isBlank c = true) ∧
    ∀ ds, ds ≠ [] → strip ds = ds → strip (cs ++ ds) = strip cs ++ blanks ++ ds := by
  obtain ⟨front, back, hcs, hfront, hback⟩ := exists_eq_strip cs
  have hjoined : ∀ ds, strip (cs ++ ds) = strip (strip cs ++ (back ++ ds)) := by
    intro ds
    conv_lhs => rw [hcs, List.append_assoc, List.append_assoc, strip_append_of_blank hfront]
  by_cases hempty : strip cs = []
  · refine ⟨[], by simp, fun ds _ hds => ?_⟩
    rw [hjoined, hempty, List.nil_append, strip_append_of_blank hback, hds]
    rfl
  · refine ⟨back, hback, fun ds hne hds => ?_⟩
    rw [hjoined, List.append_assoc, strip_eq_self_iff]
    constructor
    · intro c hc
      apply (strip_eq_self_iff.1 (strip_strip cs)).1 c
      rwa [List.head?_append_of_ne_nil _ hempty] at hc
    · intro c hc
      apply (strip_eq_self_iff.1 hds).2 c
      rwa [← List.append_assoc, List.getLast?_append_of_ne_nil _ hne] at hc

end Chars
end CrossAudit
