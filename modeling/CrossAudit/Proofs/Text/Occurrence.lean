import CrossAudit.Text.Search
import Mathlib.Tactic.Common

/-!
# Occurrences of a word

How often a word occurs in a text, whatever the case of the text's ASCII letters.  A character that
does not occur in the word is *foreign* to it: no occurrence reaches over it, so the occurrences in
a text are those in the pieces between foreign characters.

Main results:

- Theorem `occursIn_iff`: the search for a text finds it if it occurs.
- Theorem `countFolded_append_cons`: a foreign character cuts a text into two that are counted
  apart.
- Theorem `countFolded_flatMap`: escaping characters that are foreign to a word, each behind a
  foreign mark, leaves the count as it is.
-/

namespace CrossAudit
namespace Chars

/-- The search for a text finds it if it occurs. -/
theorem occursIn_iff {needle cs : List Char} : occursIn needle cs = true ↔ needle <:+: cs := by
  induction cs with
  | nil => simp [occursIn]
  | cons c cs ih =>
      rw [occursIn, Bool.or_eq_true, ih, List.isPrefixOf_iff_prefix, List.infix_cons_iff]

/-- Whether a text begins with a word in lower case, whatever the case of the text's letters. -/
def opensFolded (word cs : List Char) : Bool :=
  word.isPrefixOf (cs.map Char.toLower)

/-- How often a word in lower case occurs in a text, whatever the case of the text's letters. -/
def countFolded (word cs : List Char) : Nat :=
  (suffixes cs).countP (opensFolded word)

variable {word cs before after : List Char} {c w x : Char}

/-! ## Beginnings -/

theorem opensFolded_cons_cons :
    opensFolded (w :: word) (c :: cs) = (w == c.toLower && opensFolded word cs) := rfl

/-- Nothing from a foreign character on belongs to a word in front. -/
theorem opensFolded_append_cons (hx : x.toLower ∉ word) :
    opensFolded word (before ++ x :: after) = opensFolded word before := by
  induction word generalizing before with
  | nil => rfl
  | cons w word ih =>
      rw [List.mem_cons, not_or] at hx
      cases before with
      | nil =>
          have hhead : (w == x.toLower) = false := by simpa using Ne.symm hx.1
          rw [List.nil_append, opensFolded_cons_cons, hhead]
          rfl
      | cons c before =>
          rw [List.cons_append, opensFolded_cons_cons, opensFolded_cons_cons, ih hx.2]

theorem opensFolded_cons_of_foreign (hx : x.toLower ∉ word) :
    opensFolded word (x :: after) = opensFolded word [] :=
  @opensFolded_append_cons word [] after x hx

/-! ## Counting -/

theorem countFolded_nil (hword : word ≠ []) : countFolded word [] = 0 := by
  cases word with
  | nil => exact absurd rfl hword
  | cons w word => rfl

theorem countFolded_cons :
    countFolded word (c :: cs) =
      countFolded word cs + if opensFolded word (c :: cs) then 1 else 0 :=
  List.countP_cons

/-- A foreign character cuts a text into two that are counted apart. -/
theorem countFolded_append_cons (hx : x.toLower ∉ word) :
    countFolded word (before ++ x :: after) =
      countFolded word before + countFolded word after := by
  induction before with
  | nil =>
      have hempty : countFolded word [] = if opensFolded word [] then 1 else 0 :=
        List.countP_singleton
      rw [List.nil_append, countFolded_cons, hempty, opensFolded_cons_of_foreign hx, Nat.add_comm]
  | cons c before ih =>
      rw [List.cons_append, countFolded_cons, countFolded_cons, ih, ← List.cons_append,
        opensFolded_append_cons hx]
      omega

/-- A foreign character does not count in front of a text. -/
theorem countFolded_cons_of_foreign (hword : word ≠ []) (hx : x.toLower ∉ word) :
    countFolded word (x :: after) = countFolded word after := by
  have hcut : countFolded word (x :: after) = countFolded word [] + countFolded word after :=
    @countFolded_append_cons word [] after x hx
  rw [hcut, countFolded_nil hword, Nat.zero_add]

/-- A text with a foreign character in front is counted apart from what precedes it. -/
theorem countFolded_append (hword : word ≠ []) (h : ∀ x ∈ after.head?, x.toLower ∉ word) :
    countFolded word (before ++ after) = countFolded word before + countFolded word after := by
  cases after with
  | nil => rw [List.append_nil, countFolded_nil hword, Nat.add_zero]
  | cons x after =>
      have hx : x.toLower ∉ word := h x rfl
      rw [countFolded_append_cons hx, countFolded_cons_of_foreign hword hx]

/-- No occurrence begins in a text without the word's first character. -/
theorem countFolded_append_of_head (h : ∀ c ∈ before, c.toLower ≠ w) :
    countFolded (w :: word) (before ++ after) = countFolded (w :: word) after := by
  induction before with
  | nil => rfl
  | cons c before ih =>
      have hhead : (w == c.toLower) = false := by
        simpa using Ne.symm (h c List.mem_cons_self)
      rw [List.cons_append, countFolded_cons, opensFolded_cons_cons, hhead,
        ih fun d hd => h d (List.mem_cons_of_mem c hd)]
      rfl

/-! ## Escaping -/

/-- Characters that may be put for another one in a text that a word is looked for in: that one
itself, or, if it is foreign to the word, a foreign mark and characters that begin no occurrence. -/
def StandsFor (w : Char) (word escaped : List Char) (c : Char) : Prop :=
  escaped = [c] ∨
    c.toLower ∉ w :: word ∧
      ∃ mark tail, escaped = mark :: tail ∧ mark.toLower ∉ w :: word ∧ ∀ d ∈ tail, d.toLower ≠ w

variable {escape : Char → List Char}

/-- A part of the word begins an escaped text if it begins the text. -/
theorem opensFolded_flatMap (hescape : ∀ c, StandsFor w word (escape c) c) {part : List Char}
    (hpart : part ⊆ w :: word) :
    opensFolded part (cs.flatMap escape) = opensFolded part cs := by
  induction cs generalizing part with
  | nil => rfl
  | cons c cs ih =>
      rw [List.flatMap_cons]
      rcases hescape c with hkept | ⟨hforeign, mark, tail, hmark, hmarkForeign, -⟩
      · rw [hkept, List.singleton_append]
        cases part with
        | nil => rfl
        | cons p part =>
            rw [opensFolded_cons_cons, opensFolded_cons_cons,
              ih fun d hd => hpart (List.mem_cons_of_mem p hd)]
      · rw [hmark, List.cons_append, opensFolded_cons_of_foreign fun h => hmarkForeign (hpart h),
          opensFolded_cons_of_foreign fun h => hforeign (hpart h)]

/-- Escaping characters that are foreign to a word leaves its count as it is. -/
theorem countFolded_flatMap (hescape : ∀ c, StandsFor w word (escape c) c) (cs : List Char) :
    countFolded (w :: word) (cs.flatMap escape) = countFolded (w :: word) cs := by
  induction cs with
  | nil => rfl
  | cons c cs ih =>
      have hopens : opensFolded (w :: word) ((c :: cs).flatMap escape) =
          opensFolded (w :: word) (c :: cs) :=
        opensFolded_flatMap hescape (List.Subset.refl (w :: word))
      rw [List.flatMap_cons] at hopens ⊢
      rcases hescape c with hkept | ⟨hforeign, mark, tail, hmark, hmarkForeign, htail⟩
      · rw [hkept, List.singleton_append] at hopens ⊢
        rw [countFolded_cons, countFolded_cons, ih, hopens]
      · rw [hmark, List.cons_append,
          countFolded_cons_of_foreign (List.cons_ne_nil w word) hmarkForeign,
          countFolded_append_of_head htail, ih,
          countFolded_cons_of_foreign (List.cons_ne_nil w word) hforeign]

end Chars
end CrossAudit
