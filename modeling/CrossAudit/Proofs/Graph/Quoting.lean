import CrossAudit.Graph.Dot
import CrossAudit.Proofs.Text.Substitution

/-!
# Quoted names in the DOT language

A name stands between quotation marks, and a backslash in front of a character takes away what it
means otherwise.  A reader that knows no more than this rule ends a quoted name at the right mark,
whatever mixture of backslashes and marks the name holds, and gets the name back.

Main results:

- Theorem `Protected.closing?`: a protected text is read up to the mark behind it.
- Theorem `literal?_quoted`: reading a quoted name stops at its own closing mark.
- Theorem `unescape_escape`: undoing the escapes of a name gives it back.
- Theorem `escape_eq_replaceAll`: escaping is the replacement of backslashes, and then of marks.
-/

namespace CrossAudit
namespace Graph
namespace Dot

/-! ## Reading -/

/-- What stands before the first quotation mark that no backslash protects, and what follows it. -/
def closing? : List Char → Option (List Char × List Char)
  | [] => none
  | '"' :: rest => some ([], rest)
  | '\\' :: c :: rest => (closing? rest).map fun (body, after) => ('\\' :: c :: body, after)
  | c :: rest => (closing? rest).map fun (body, after) => (c :: body, after)

/-- What stands between the quotation marks of a quoted name, and what follows the name. -/
def literal? : List Char → Option (List Char × List Char)
  | '"' :: rest => closing? rest
  | _ => none

/-- What a text between quotation marks stands for: a backslash is left out, and what follows it is
kept as it is. -/
def unescape : List Char → List Char
  | [] => []
  | '\\' :: c :: rest => c :: unescape rest
  | c :: rest => c :: unescape rest

/-- Texts that may stand between quotation marks: every mark in them stands behind a backslash, and
every backslash protects a character. -/
inductive Protected : List Char → Prop where
  | nil : Protected []
  | plain {c : Char} {rest : List Char} : c ≠ '\\' → c ≠ '"' → Protected rest →
      Protected (c :: rest)
  | escaped (c : Char) {rest : List Char} : Protected rest → Protected ('\\' :: c :: rest)

variable {cs body body' rest : List Char} {c : Char}

theorem Protected.append (h : Protected body) (h' : Protected body') :
    Protected (body ++ body') := by
  induction h with
  | nil => exact h'
  | plain hslash hquote _ ih => exact .plain hslash hquote ih
  | escaped c _ ih => exact .escaped c ih

/-- Characters that mean nothing else between quotation marks. -/
def isPlain (c : Char) : Bool :=
  c != '\\' && c != '"'

theorem Protected.of_all (h : body.all isPlain = true) : Protected body := by
  induction body with
  | nil => exact .nil
  | cons c body ih =>
      rw [List.all_cons, Bool.and_eq_true, isPlain, Bool.and_eq_true, bne_iff_ne, bne_iff_ne] at h
      exact .plain h.1.1 h.1.2 (ih h.2)

/-! ## Names -/

theorem protected_escapeChars (cs : List Char) : Protected (escapeChars cs) := by
  induction cs with
  | nil => exact .nil
  | cons c cs ih =>
      rw [escapeChars]
      split
      · exact .escaped c ih
      · rename_i hc
        rw [Bool.or_eq_true, beq_iff_eq, beq_iff_eq, not_or] at hc
        exact .plain hc.1 hc.2 ih

theorem closing?_cons (hslash : c ≠ '\\') (hquote : c ≠ '"') :
    closing? (c :: rest) = (closing? rest).map fun (body, after) => (c :: body, after) := by
  rw [closing?]
  · exact fun h => hquote h
  · exact fun _ _ h => absurd h hslash

theorem Protected.closing? (h : Protected body) (rest : List Char) :
    closing? (body ++ '"' :: rest) = some (body, rest) := by
  induction h with
  | nil => rfl
  | plain hslash hquote _ ih => rw [List.cons_append, closing?_cons hslash hquote, ih]; rfl
  | escaped c _ ih => rw [List.cons_append, List.cons_append, Dot.closing?, ih]; rfl

theorem unescape_cons (hslash : c ≠ '\\') : unescape (c :: rest) = c :: unescape rest := by
  rw [unescape]
  exact fun _ _ h => absurd h hslash

/-- Undoing the escapes of a name gives it back. -/
theorem unescape_escapeChars (cs : List Char) : unescape (escapeChars cs) = cs := by
  induction cs with
  | nil => rfl
  | cons c cs ih =>
      rw [escapeChars]
      split
      · rw [unescape, ih]
      · rename_i hc
        rw [Bool.or_eq_true, beq_iff_eq, beq_iff_eq, not_or] at hc
        rw [unescape_cons hc.1, ih]

theorem toList_escape (s : String) : (escape s).toList = escapeChars s.toList :=
  String.toList_ofList

theorem protected_escape (s : String) : Protected (escape s).toList := by
  rw [toList_escape]
  exact protected_escapeChars s.toList

theorem unescape_escape (s : String) : unescape (escape s).toList = s.toList := by
  rw [toList_escape, unescape_escapeChars]

/-- A quoted name ends at its own closing mark, whatever follows. -/
theorem literal?_quoted (s : String) (rest : List Char) :
    literal? ((quoted s).toList ++ rest) = some ((escape s).toList, rest) := by
  have htext : (quoted s).toList ++ rest = '"' :: ((escape s).toList ++ '"' :: rest) := by
    simp [quoted]
  rw [htext]
  exact (protected_escape s).closing? rest

-- The backslash at the end of a name does not protect its closing mark.
example : literal? ((quoted "a\\").toList ++ ['"']) = some (['a', '\\', '\\'], ['"']) := by decide

/-- Different names are quoted differently. -/
theorem quoted_injective : Function.Injective quoted := by
  intro s t h
  have hescape : (escape s).toList = (escape t).toList := by
    have hread := literal?_quoted s []
    rw [h, literal?_quoted] at hread
    exact (Prod.mk.inj (Option.some.inj hread)).1.symm
  rw [← String.toList_inj, ← unescape_escape, hescape, unescape_escape]

/-! ## Escaping by replacement -/

/-- Replacing a single character goes through a text character by character. -/
theorem replaceAll_singleton (a : Char) (new cs : List Char) :
    Chars.replaceAll [a] new cs = cs.flatMap fun c => if c == a then new else [c] := by
  unfold Chars.replaceAll
  induction cs with
  | nil => rfl
  | cons c cs ih =>
      rw [List.flatMap_cons, ← ih]
      by_cases hc : c = a
      · subst hc
        rw [if_pos (beq_self_eq_true c)]
        rw [← List.singleton_append]
        exact Chars.substitute_append_of_some (List.cons_ne_nil c []) (by simp)
      · rw [if_neg (by simpa using hc), List.singleton_append]
        exact Chars.substitute_cons_of_none (by simpa using Ne.symm hc)

/-- A name is escaped by two replacements: first of the backslashes, then of the quotation marks. -/
theorem escape_eq_replaceAll (s : String) :
    escape s = Text.replaceAll (Text.replaceAll s "\\" "\\\\") "\"" "\\\"" := by
  have hchars : ∀ cs, escapeChars cs =
      Chars.replaceAll ['"'] ['\\', '"'] (Chars.replaceAll ['\\'] ['\\', '\\'] cs) := by
    intro cs
    rw [replaceAll_singleton, replaceAll_singleton]
    induction cs with
    | nil => rfl
    | cons c cs ih =>
        rw [escapeChars, ih, List.flatMap_cons, List.flatMap_append]
        by_cases hslash : c = '\\'
        · simp [hslash]
        · by_cases hquote : c = '"' <;> simp [hslash, hquote]
  rw [escape, hchars]
  simp [Text.replaceAll]

end Dot
end Graph
end CrossAudit
