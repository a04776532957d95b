import CrossAudit.Text.Blank
import CrossAudit.Text.Lines
import Mathlib.Data.List.TakeWhile
import Mathlib.Tactic.Common

/-!
# Lines of texts that are put together

Main results:

- Theorem `linesFrom_append_break`: the lines of a text are those up to a boundary and those behind
  it.
- Theorem `linesFrom_unbroken`: characters that are no boundaries are added to the current line.
- Theorem `exists_last_break`: a text with a boundary has a last one.
- Theorem `strip_ne_nil`: a text with a character that is no blank is not all blank.
-/

namespace CrossAudit
namespace Chars

variable {c : Char} {line cs : List Char}

/-! ## One step of the walk -/

/-- A boundary that is not the first half of another one ends a line. -/
theorem linesFrom_cons_break (hc : isLineBreak c = true)
    (hhalf : c = '\r' → cs.head? ≠ some '\n') :
    linesFrom line (c :: cs) = line.reverse :: linesFrom [] cs := by
  rw [linesFrom]
  · simp [hc]
  · rintro rest hreturn rfl
    exact hhalf hreturn rfl

/-- A character that is no boundary is added to the current line. -/
theorem linesFrom_cons_plain (hc : isLineBreak c = false) :
    linesFrom line (c :: cs) = linesFrom (c :: line) cs := by
  rw [linesFrom]
  · simp [hc]
  · rintro rest rfl
    exact absurd hc (by decide)

/-! ## Texts that are put together -/

/-- The lines of a text are those up to a boundary and those behind it.  A carriage return is left
out, since a line feed behind it would belong to the same boundary. -/
theorem linesFrom_append_break (hc : isLineBreak c = true) (hreturn : c ≠ '\r')
    (line xs ys : List Char) :
    linesFrom line (xs ++ c :: ys) = linesFrom line (xs ++ [c]) ++ linesFrom [] ys := by
  have hlast : ∀ line, linesFrom line (c :: ys) = linesFrom line [c] ++ linesFrom [] ys := by
    intro line
    rw [linesFrom_cons_break hc fun h => absurd h hreturn,
      linesFrom_cons_break hc fun h => absurd h hreturn]
    rfl
  fun_induction linesFrom line xs with
  | case1 => exact hlast []
  | case2 line _ => exact hlast line
  | case3 line rest ih => simp [linesFrom, ih]
  | case4 line d rest hhalf hd ih =>
      by_cases hpair : d = '\r' ∧ rest = [] ∧ c = '\n'
      · rcases hpair with ⟨rfl, rfl, rfl⟩
        simp [linesFrom]
      · -- What follows `d` begins alike on both sides, and not with its second half.
        have hhead : ∀ zs, d = '\r' → (rest ++ c :: zs).head? ≠ some '\n' := by
          rintro zs rfl hfeed
          cases rest with
          | nil => exact hpair ⟨rfl, rfl, by simpa using hfeed⟩
          | cons e rest => exact hhalf rest rfl (by rw [Option.some.inj hfeed])
        rw [List.cons_append, List.cons_append, linesFrom_cons_break hd (hhead ys),
          linesFrom_cons_break hd (hhead []), ih]
        rfl
  | case5 line d rest _ hd ih =>
      have hplain : isLineBreak d = false := by simpa using hd
      rw [List.cons_append, List.cons_append, linesFrom_cons_plain hplain,
        linesFrom_cons_plain hplain, ih]

/-- Characters that are no boundaries are added to the current line. -/
theorem linesFrom_unbroken (h : ∀ c ∈ cs, isLineBreak c = false) (line rest : List Char) :
    linesFrom line (cs ++ rest) = linesFrom (cs.reverse ++ line) rest := by
  induction cs generalizing line with
  | nil => rfl
  | cons c cs ih =>
      rw [List.cons_append, linesFrom_cons_plain (h c List.mem_cons_self),
        ih fun d hd => h d (List.mem_cons_of_mem c hd)]
      simp

/-- A text with a boundary has a last one. -/
theorem exists_last_break (h : ∃ c ∈ cs, isLineBreak c = true) :
    ∃ before c after, cs = before ++ c :: after ∧ isLineBreak c = true ∧
      ∀ d ∈ after, isLineBreak d = false := by
  induction cs with
  | nil =>
      rcases h with ⟨c, hc, _⟩
      cases hc
  | cons d cs ih =>
      by_cases hrest : ∃ c ∈ cs, isLineBreak c = true
      · rcases ih hrest with ⟨before, c, after, rfl, hc, hafter⟩
        exact ⟨d :: before, c, after, rfl, hc, hafter⟩
      · have hnone : ∀ c ∈ cs, isLineBreak c = false := by simpa using hrest
        refine ⟨[], d, cs, rfl, ?_, hnone⟩
        rcases h with ⟨c, hc, hbreak⟩
        rcases List.mem_cons.1 hc with rfl | hc
        · exact hbreak
        · rw [hnone c hc] at hbreak
          cases hbreak

/-! ## Blank lines -/

/-- A text with a character that is no blank is not all blank. -/
theorem strip_ne_nil (hc : c ∈ cs) (hblank : Text.isBlank c = false) : strip cs ≠ [] := by
  intro hstrip
  have hright : ∀ d ∈ cs.dropWhile Text.isBlank, Text.isBlank d = true := by
    simpa [strip, trimRight, trimLeft, List.dropWhile_eq_nil_iff] using hstrip
  have hleft : ∀ d ∈ cs.takeWhile Text.isBlank, Text.isBlank d = true :=
    List.all_eq_true.1 List.all_takeWhile
  have hall : Text.isBlank c = true := by
    rw [← List.takeWhile_append_dropWhile (p := Text.isBlank) (l := cs), List.mem_append] at hc
    exact hc.elim (hleft c) (hright c)
  rw [hall] at hblank
  cases hblank

end Chars
end CrossAudit
