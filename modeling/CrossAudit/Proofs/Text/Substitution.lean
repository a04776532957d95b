import CrossAudit.Text.Search
import Mathlib.Tactic.Common

/-!
# What a substitution makes of a text

A text is *rewritten* into another one if the substitution puts the one for the other whatever
follows.  Rewritings can be put side by side, so the outcome of a substitution on a long text is
read off its pieces: characters at which nothing is recognised stay, and a piece that the recogniser
takes as a whole is replaced.

Main results:

- Theorem `Rewrites.append`: rewritings of two texts give one of both together.
- Theorem `Rewrites.of_recognised`: a text that is recognised, whatever follows, is rewritten into
  what it stands for.
- Theorem `Rewrites.intercalate`: pieces between separators are rewritten one by one.
-/

namespace CrossAudit
namespace Chars

variable {recognise : List Char → Option (Nat × List Char)} {old new : List Char}

/-! ## One step of the walk -/

/-- Characters that belong to the last match are passed over. -/
theorem substituteFrom_length_append (recognise : List Char → Option (Nat × List Char))
    (covered rest : List Char) :
    substituteFrom recognise covered.length (covered ++ rest) =
      substitute recognise rest := by
  induction covered with
  | nil => rfl
  | cons c covered ih => exact ih

/-- A character at which nothing is recognised stays. -/
theorem substitute_cons_of_none {c : Char} {rest : List Char}
    (h : recognise (c :: rest) = none) :
    substitute recognise (c :: rest) = c :: substitute recognise rest := by
  simp only [substitute, substituteFrom, h]

/-- A text that is recognised in front is replaced. -/
theorem substitute_append_of_some {rest : List Char} (hne : old ≠ [])
    (h : recognise (old ++ rest) = some (old.length, new)) :
    substitute recognise (old ++ rest) = new ++ substitute recognise rest := by
  cases old with
  | nil => exact absurd rfl hne
  | cons c covered =>
      rw [List.cons_append] at h
      have htail := substituteFrom_length_append recognise covered rest
      simp only [substitute, List.cons_append, substituteFrom, h, List.length_cons,
        Nat.add_sub_cancel]
      rw [htail]
      rfl

/-! ## Rewriting -/

/-- A substitution puts one text for another, whatever follows. -/
def Rewrites (recognise : List Char → Option (Nat × List Char)) (old new : List Char) : Prop :=
  ∀ rest, substitute recognise (old ++ rest) = new ++ substitute recognise rest

namespace Rewrites

theorem nil : Rewrites recognise [] [] := by
  intro rest
  rfl

/-- Rewritings of two texts give one of both together. -/
theorem append {old' new' : List Char} (h : Rewrites recognise old new)
    (h' : Rewrites recognise old' new') : Rewrites recognise (old ++ old') (new ++ new') := by
  intro rest
  rw [List.append_assoc, h, h', List.append_assoc]

/-- The outcome of a substitution on a text that is rewritten. -/
theorem substitute_eq (h : Rewrites recognise old new) : substitute recognise old = new := by
  have hend := h []
  have hnil : substitute recognise [] = [] := rfl
  rwa [hnil, List.append_nil, List.append_nil] at hend

/-- A character at which nothing is ever recognised stays. -/
theorem single {c : Char} (h : ∀ rest, recognise (c :: rest) = none) :
    Rewrites recognise [c] [c] := by
  intro rest
  exact substitute_cons_of_none (h rest)

/-- A text stays if nothing is ever recognised at its characters. -/
theorem plain (h : ∀ c ∈ old, ∀ rest, recognise (c :: rest) = none) :
    Rewrites recognise old old := by
  induction old with
  | nil => exact nil
  | cons c old ih =>
      have hhead : Rewrites recognise [c] [c] := single (h c List.mem_cons_self)
      have htail : Rewrites recognise old old :=
        ih fun d hd => h d (List.mem_cons_of_mem c hd)
      exact hhead.append htail

/-- A text that is recognised, whatever follows, is rewritten into what it stands for. -/
theorem of_recognised (hne : old ≠ [])
    (h : ∀ rest, recognise (old ++ rest) = some (old.length, new)) :
    Rewrites recognise old new := by
  intro rest
  exact substitute_append_of_some hne (h rest)

/-- Pieces between separators are rewritten one by one. -/
theorem intercalate {α : Type} {sep : List Char} {written image : α → List Char} {pieces : List α}
    (hsep : Rewrites recognise sep sep)
    (h : ∀ p ∈ pieces, Rewrites recognise (written p) (image p)) :
    Rewrites recognise (sep.intercalate (pieces.map written))
      (sep.intercalate (pieces.map image)) := by
  induction pieces with
  | nil => exact nil
  | cons p pieces ih =>
      have hhead : Rewrites recognise (written p) (image p) := h p List.mem_cons_self
      have htail := ih fun q hq => h q (List.mem_cons_of_mem p hq)
      cases pieces with
      | nil => simpa using hhead
      | cons q pieces =>
          simp only [List.map_cons, List.intercalate_cons_cons] at htail ⊢
          exact (hhead.append hsep).append htail

end Rewrites
end Chars
end CrossAudit
