import CrossAudit.Text.Search
import Mathlib.Data.List.TakeWhile

/-!
# Pieces of a text

Texts that are joined with a separator, what stands behind an opening or in front of an ending, and
the last piece of a text.

Main results:

- Theorem `Chars.after?_eq_some_iff`, `Chars.before?_eq_some_iff`: how an opening or an ending cuts
  a text.
- Theorem `Chars.mem_intercalate`: where the characters of a joined text come from.
- Theorem `Chars.lastPiece_eq_iff`, `Text.lastPiece_eq_iff`: what the last piece of a text is.
-/

namespace CrossAudit

namespace Chars

/-! ## Joined texts -/

/-- A character of joined pieces belongs to the separator or to one of the pieces. -/
theorem mem_intercalate {sep : List Char} {pieces : List (List Char)} {c : Char}
    (h : c ∈ sep.intercalate pieces) : c ∈ sep ∨ ∃ p ∈ pieces, c ∈ p := by
  induction pieces with
  | nil => simp at h
  | cons p pieces ih =>
      cases pieces with
      | nil =>
          rw [List.intercalate_singleton] at h
          exact Or.inr ⟨p, List.mem_cons_self, h⟩
      | cons q pieces =>
          rw [List.intercalate_cons_cons, List.append_assoc, List.mem_append,
            List.mem_append] at h
          rcases h with h | h | h
          · exact Or.inr ⟨p, List.mem_cons_self, h⟩
          · exact Or.inl h
          · rcases ih h with hsep | ⟨q', hq', hc⟩
            · exact Or.inl hsep
            · exact Or.inr ⟨q', List.mem_cons_of_mem p hq', hc⟩

/-- A last piece is joined behind the separator, unless it is the only one. -/
theorem intercalate_concat (sep piece : List Char) {pieces : List (List Char)}
    (h : pieces ≠ []) :
    sep.intercalate (pieces ++ [piece]) = sep.intercalate pieces ++ sep ++ piece := by
  induction pieces with
  | nil => exact absurd rfl h
  | cons p pieces ih =>
      cases pieces with
      | nil => simp [List.intercalate_cons_cons]
      | cons q pieces =>
          have hrest := ih (List.cons_ne_nil q pieces)
          simp only [List.cons_append] at hrest ⊢
          rw [List.intercalate_cons_cons, hrest, List.intercalate_cons_cons]
          simp only [List.append_assoc]

/-! ## Openings and endings -/

theorem after?_eq_some_iff {opening cs rest : List Char} :
    after? opening cs = some rest ↔ cs = opening ++ rest := by
  rw [after?, Option.ite_none_right_eq_some, List.isPrefixOf_iff_prefix]
  constructor
  · rintro ⟨⟨rest, rfl⟩, hrest⟩
    rw [List.drop_left, Option.some.injEq] at hrest
    rw [hrest]
  · rintro rfl
    exact ⟨List.prefix_append _ _, by rw [List.drop_left]⟩

theorem before?_eq_some_iff {ending cs front : List Char} :
    before? ending cs = some front ↔ cs = front ++ ending := by
  rw [before?, Option.ite_none_right_eq_some, List.isSuffixOf_iff_suffix]
  constructor
  · rintro ⟨⟨front, rfl⟩, hfront⟩
    rw [List.length_append, Nat.add_sub_cancel, List.take_left, Option.some.injEq] at hfront
    rw [hfront]
  · rintro rfl
    refine ⟨List.suffix_append _ _, ?_⟩
    rw [List.length_append, Nat.add_sub_cancel, List.take_left]

/-- A text without the separator is all in front of it. -/
theorem cut_of_notMem {sep : Char} {cs : List Char} (h : sep ∉ cs) : (cut sep cs).1 = cs := by
  rw [cut, List.takeWhile_eq_self_iff]
  intro c hc
  rw [bne_iff_ne]
  rintro rfl
  exact h hc

/-! ## The last piece -/

variable {sep : Char} {cs piece : List Char}

/-- The last piece holds no separator, and is the whole text or stands behind a separator. -/
theorem lastPiece_eq_iff : lastPiece sep cs = piece ↔
    sep ∉ piece ∧ (cs = piece ∨ ∃ before, cs = before ++ sep :: piece) := by
  have hfree : ∀ ds : List Char, sep ∉ ds → (ds.reverse.takeWhile (· != sep)) = ds.reverse := by
    intro ds hds
    refine List.takeWhile_eq_self_iff.2 fun c hc => ?_
    simp only [bne_iff_ne]
    rintro rfl
    exact hds (List.mem_reverse.1 hc)
  constructor
  · rintro rfl
    refine ⟨fun hmem => ?_, ?_⟩
    · have htake := List.mem_takeWhile_imp (List.mem_reverse.1 hmem)
      simp at htake
    · have hsplit := List.takeWhile_append_dropWhile (p := (· != sep)) (l := cs.reverse)
      cases hrest : cs.reverse.dropWhile (· != sep) with
      | nil =>
          left
          rw [hrest, List.append_nil] at hsplit
          rw [lastPiece, hsplit, List.reverse_reverse]
      | cons c rest =>
          right
          have hstop := List.head_dropWhile_not (p := (· != sep)) (l := cs.reverse) (by simp [hrest])
          simp only [hrest, List.head_cons, bne_eq_false_iff_eq] at hstop
          rw [hrest, hstop] at hsplit
          refine ⟨rest.reverse, ?_⟩
          calc
            cs = cs.reverse.reverse := (List.reverse_reverse cs).symm
            _ = (cs.reverse.takeWhile (· != sep) ++ sep :: rest).reverse := by rw [hsplit]
            _ = rest.reverse ++ sep :: lastPiece sep cs := by simp [lastPiece]
  · rintro ⟨hpiece, rfl | ⟨before, rfl⟩⟩
    · rw [lastPiece, hfree _ hpiece, List.reverse_reverse]
    · rw [lastPiece, List.reverse_append, List.reverse_cons, List.append_assoc,
        List.takeWhile_append_of_pos]
      · simp
      · intro c hc
        simp only [bne_iff_ne]
        rintro rfl
        exact hpiece (List.mem_reverse.1 hc)

end Chars

/-- A text without dots that is all of another one, or stands at its end behind a dot. -/
def Text.IsLastPart (part text : String) : Prop :=
  '.' ∉ part.toList ∧ (text = part ∨ ∃ before, text = before ++ "." ++ part)

theorem Text.lastPiece_eq_iff {part text : String} :
    Text.lastPiece '.' text = part ↔ IsLastPart part text := by
  rw [lastPiece, ← String.toList_inj, String.toList_ofList, Chars.lastPiece_eq_iff, IsLastPart]
  refine and_congr_right fun _ => or_congr String.toList_inj ?_
  constructor
  · rintro ⟨before, htext⟩
    refine ⟨String.ofList before, String.toList_inj.1 ?_⟩
    simpa using htext
  · rintro ⟨before, rfl⟩
    exact ⟨before.toList, by simp⟩

end CrossAudit
