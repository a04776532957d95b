import CrossAudit.Json.Parser
import CrossAudit.Proofs.Failing
import CrossAudit.Text.Lines
import Mathlib.Tactic.Common

/-!
# Quotation marks in JSON texts

A JSON text can be walked character by character without knowing its structure: a quotation mark
opens or closes a string, and within a string a backslash protects the next character.  Whatever
the reader accepts passes this walk and ends outside of strings.  Line boundaries other than line
feeds and carriage returns only occur within strings.

The walks that begin outside and inside a string read every quotation mark the opposite way, so a
text passes at most one of them.  Hence no document is what follows such a boundary in another one.

Main results:

- Theorem `lexes_of_parse`: a document passes the walk from outside.
- Theorem `not_lexes_outside`: a text that passes the walk from inside is no document.
- Theorem `lexes_inside_of_boundary`: what follows a line boundary in a document passes the walk
  from inside.
- Theorem `fails_parse_of_boundary`: so it is no document.
-/

namespace CrossAudit
namespace Json

/-! ## The walk -/

/-- Where a walk is: outside of strings, in a string, or in a string behind a backslash. -/
inductive Mode where
  | outside
  | inside
  | escaped
  deriving DecidableEq

/-- A line boundary other than line feed and carriage return. -/
def isInnerBoundary (c : Char) : Bool :=
  Chars.isLineBreak c && !isGap c

/-- Where a walk is after a character, unless it stops there. -/
def advance (m : Mode) (c : Char) : Option Mode :=
  match m with
  | .outside =>
    if c == '"' then some .inside
    else if c == '\\' || isInnerBoundary c then none
    else some .outside
  | .inside =>
    if c == '"' then some .outside
    else if c == '\\' then some .escaped
    else some .inside
  | .escaped => if isInnerBoundary c then none else some .inside

/-- Whether a text passes the walk and ends outside of strings. -/
def lexes : Mode → List Char → Bool
  | m, [] => m == .outside
  | m, c :: cs =>
    match advance m c with
    | some m' => lexes m' cs
    | none => false

variable {c : Char} {cs rest : List Char} {m : Mode}

/-- A walk that advances goes on from where it gets. -/
theorem lexes_cons_of_advance {m' : Mode} (h : advance m c = some m') :
    lexes m (c :: cs) = lexes m' cs := by
  simp [lexes, h]

/-- A text that passes the walk from inside does not pass it from outside. -/
theorem not_lexes_outside (h : lexes .inside cs = true) : lexes .outside cs = false := by
  suffices hboth : ¬ (lexes .inside cs = true ∧ lexes .outside cs = true) by
    rw [← Bool.not_eq_true]
    exact fun houtside => hboth ⟨h, houtside⟩
  clear h
  -- At a quotation mark the two walks change places; elsewhere both stay, or the outer one stops.
  induction cs with
  | nil => simp [lexes]
  | cons c cs ih =>
      rintro ⟨hinside, houtside⟩
      by_cases hquote : c = '"'
      · subst hquote
        exact ih ⟨houtside, hinside⟩
      · by_cases hstop : c = '\\' ∨ isInnerBoundary c = true
        · have hnone : advance .outside c = none := by
            simpa [advance, hquote] using or_iff_not_imp_left.1 hstop
          simp [lexes, hnone] at houtside
        · rw [not_or] at hstop
          have hstay : advance .outside c = some .outside := by simp [advance, hquote, hstop]
          have hstay' : advance .inside c = some .inside := by simp [advance, hquote, hstop]
          simp only [lexes, hstay] at houtside
          simp only [lexes, hstay'] at hinside
          exact ih ⟨hinside, houtside⟩

/-- Every line break but the line feed and the carriage return is an inner boundary. -/
theorem isInnerBoundary_of_isLineBreak (hc : Chars.isLineBreak c = true) (hfeed : c ≠ '\n')
    (hreturn : c ≠ '\r') : isInnerBoundary c = true := by
  have hgap : isGap c = false := by
    simp only [isGap, Bool.or_eq_false_iff, beq_eq_false_iff_ne]
    refine ⟨⟨⟨?_, ?_⟩, hfeed⟩, hreturn⟩
    · rintro rfl
      exact absurd hc (by decide)
    · rintro rfl
      exact absurd hc (by decide)
  simp [isInnerBoundary, hc, hgap]

/-- A boundary that is passed was in a string, and so is what follows it. -/
theorem lexes_inside_of_boundary {before after : List Char} (hc : isInnerBoundary c = true)
    (h : lexes m (before ++ c :: after) = true) : lexes .inside after = true := by
  induction before generalizing m with
  | nil =>
      have hquote : c ≠ '"' := by
        rintro rfl
        exact absurd hc (by decide)
      have hslash : c ≠ '\\' := by
        rintro rfl
        exact absurd hc (by decide)
      cases m with
      | inside => simpa [lexes, advance, hquote, hslash] using h
      | outside => simp [lexes, advance, hquote, hc] at h
      | escaped => simp [lexes, advance, hc] at h
  | cons d before ih =>
      cases hstep : advance m d with
      | none => simp [lexes, hstep] at h
      | some m' => exact ih (by simpa [lexes, hstep] using h)

/-- A walk that begins in a string has to meet a quotation mark. -/
theorem quote_mem_of_lexes (hm : m ≠ .outside) (h : lexes m cs = true) : '"' ∈ cs := by
  induction cs generalizing m with
  | nil => exact absurd (by simpa [lexes] using h) hm
  | cons c cs ih =>
      by_cases hquote : c = '"'
      · rw [hquote]
        exact List.mem_cons_self
      · cases hstep : advance m c with
        | none => simp [lexes, hstep] at h
        | some m' =>
            have hm' : m' ≠ .outside := by
              rintro rfl
              cases m with
              | outside => exact hm rfl
              | inside => simp [advance, hquote] at hstep; split at hstep <;> cases hstep
              | escaped => simp [advance] at hstep
            exact List.mem_cons_of_mem c (ih hm' (by simpa [lexes, hstep] using h))

/-! ## Tokens -/

/-- A character that a walk passes without a change, outside and inside of strings. -/
def isPlain (c : Char) : Bool :=
  c != '"' && c != '\\' && !isInnerBoundary c

/-- A plain character leaves the walk where it is, unless a backslash stands before it. -/
theorem advance_plain (h : isPlain c = true) (hm : m ≠ .escaped) : advance m c = some m := by
  simp only [isPlain, Bool.and_eq_true, bne_iff_ne, Bool.not_eq_true'] at h
  cases m with
  | outside => simp [advance, h]
  | inside => simp [advance, h]
  | escaped => exact absurd rfl hm

/-- A reader passes over a part of a text: the walk over the text passes if the walk over the rest
does. -/
def Passes (cs rest : List Char) : Prop :=
  lexes .outside cs = lexes .outside rest

namespace Passes

/-- Everything that stays ahead has been passed. -/
theorem refl (cs : List Char) : Passes cs cs :=
  rfl

/-- What is passed in two parts is passed. -/
theorem trans {mid : List Char} (h : Passes cs mid) (h' : Passes mid rest) : Passes cs rest :=
  Eq.trans h h'

/-- One plain character is passed. -/
theorem plain (h : isPlain c = true) (cs : List Char) : Passes (c :: cs) cs :=
  lexes_cons_of_advance (advance_plain h (by decide))

/-- Plain characters are passed together. -/
theorem plains {used : List Char} (h : ∀ c ∈ used, isPlain c = true) (cs : List Char) :
    Passes (used ++ cs) cs := by
  induction used with
  | nil => exact refl cs
  | cons c used ih =>
      exact (plain (h c List.mem_cons_self) (used ++ cs)).trans
        (ih fun d hd => h d (List.mem_cons_of_mem c hd))

/-- Dropping plain characters passes over them. -/
theorem dropWhile {p : Char → Bool} (hp : ∀ c, p c = true → isPlain c = true) (cs : List Char) :
    Passes cs (cs.dropWhile p) := by
  have hused : ∀ c ∈ cs.takeWhile p, isPlain c = true :=
    fun c hc => hp c (List.all_eq_true.1 List.all_takeWhile c hc)
  simpa using plains hused (cs.dropWhile p)

end Passes

/-- Blanks between values are plain. -/
theorem isPlain_of_isGap (h : isGap c = true) : isPlain c = true := by
  simp only [isGap, Bool.or_eq_true, beq_iff_eq] at h
  rcases h with ((rfl | rfl) | rfl) | rfl <;> decide

/-- Printable characters other than the quotation mark and the backslash are plain. -/
theorem isPlain_of_range (h : 35 ≤ c.toNat ∧ c.toNat ≤ 91 ∨ 93 ≤ c.toNat ∧ c.toNat ≤ 126) :
    isPlain c = true := by
  have hquote : c ≠ '"' := by
    rintro rfl
    exact absurd h (by decide)
  have hslash : c ≠ '\\' := by
    rintro rfl
    exact absurd h (by decide)
  have hbreak : Chars.isLineBreak c = false := by
    simp only [Chars.isLineBreak, Bool.or_eq_false_iff, Bool.and_eq_false_iff,
      decide_eq_false_iff_not, beq_eq_false_iff_ne]
    omega
  simp [isPlain, hquote, hslash, isInnerBoundary, hbreak]

/-- Digits are plain. -/
theorem isPlain_of_isDigit (h : c.isDigit = true) : isPlain c = true := by
  have hrange : 48 ≤ c.toNat ∧ c.toNat ≤ 57 := by
    simpa [Char.isDigit, UInt32.le_iff_toNat_le] using h
  exact isPlain_of_range (by omega)

/-- A gap is passed. -/
theorem passes_skipGap (cs : List Char) : Passes cs (skipGap cs) :=
  .dropWhile (fun _ => isPlain_of_isGap) cs

/-- A run of digits is passed. -/
theorem passes_dropDigits (cs : List Char) : Passes cs (cs.dropWhile Char.isDigit) :=
  .dropWhile (fun _ => isPlain_of_isDigit) cs

/-! ## Strings -/

/-- Hexadecimal digits are plain. -/
theorem isPlain_of_hexValue? {n : Nat} (h : hexValue? c = some n) : isPlain c = true := by
  have hrange : 48 ≤ c.toNat ∧ c.toNat ≤ 57 ∨ 97 ≤ c.toNat ∧ c.toNat ≤ 102 ∨
      65 ≤ c.toNat ∧ c.toNat ≤ 70 := by
    have hle : ∀ a b : Char, a ≤ b ↔ a.toNat ≤ b.toNat := fun a b => UInt32.le_iff_toNat_le
    simp only [hexValue?, hle, Bool.and_eq_true, decide_eq_true_eq] at h
    split at h
    · rename_i hdigit
      exact Or.inl hdigit
    · split at h
      · rename_i hlower
        exact Or.inr (Or.inl hlower)
      · split at h
        · rename_i hupper
          exact Or.inr (Or.inr hupper)
        · cases h
  exact isPlain_of_range (by omega)

/-- Inside a string, four hexadecimal digits behind their mark are passed over. -/
theorem lexes_unit {a b d : Char} {n : Nat} (h : hexUnit? a b c d = some n) (rest : List Char) :
    lexes .inside ('\\' :: 'u' :: a :: b :: c :: d :: rest) = lexes .inside rest := by
  simp only [hexUnit?, Option.bind_eq_bind, Option.bind_eq_some_iff] at h
  rcases h with ⟨_, ha, _, hb, _, hc, _, hd, _⟩
  have hstay : ∀ {e : Char} {n : Nat}, hexValue? e = some n → ∀ cs,
      lexes .inside (e :: cs) = lexes .inside cs :=
    fun he cs => lexes_cons_of_advance (advance_plain (isPlain_of_hexValue? he) (by decide))
  calc
    _ = lexes .inside (a :: b :: c :: d :: rest) := rfl
    _ = lexes .inside rest := by rw [hstay ha, hstay hb, hstay hc, hstay hd]

/-- Inside a string, an escape of one letter is passed over. -/
theorem lexes_shortEscape {e : Char} (h : shortEscape? c = some e) (rest : List Char) :
    lexes .inside ('\\' :: c :: rest) = lexes .inside rest := by
  have hc : isInnerBoundary c = false := by
    unfold shortEscape? at h
    split at h <;> first | decide | cases h
  calc
    _ = lexes .escaped (c :: rest) := rfl
    _ = lexes .inside rest := lexes_cons_of_advance (by simp [advance, hc])

/-- A string is walked from inside until its closing quotation mark. -/
theorem lexes_of_readString {done : List Char} {s : String}
    (h : readString done cs = .ok (s, rest)) : lexes .inside cs = lexes .outside rest := by
  fun_induction readString done cs with
  | case2 done tail =>
      cases h
      rfl
  | case5 done a b c d m hm _ e f g k tail n hn _ ih =>
      rw [lexes_unit hm, lexes_unit hn, ih h]
  | case9 done a b c d tail n hn _ _ ih => rw [lexes_unit hn, ih h]
  | case11 done c tail _ _ e he ih => rw [lexes_shortEscape he, ih h]
  | case15 done c tail hquote _ _ _ hslash _ ih =>
      have hstay : advance .inside c = some .inside := by
        rw [advance, if_neg (by simpa using hquote), if_neg hslash]
      rw [lexes_cons_of_advance hstay, ih h]
  | _ => cases h

/-! ## Numbers and words -/

/-- The digits of a number are passed. -/
theorem passes_of_readDigits {ds : List Char} (h : readDigits cs = .ok (ds, rest)) :
    Passes cs rest := by
  unfold readDigits at h
  dsimp only at h
  split at h
  · cases h
  · cases h
    exact passes_dropDigits cs

/-- The fraction of a number is passed. -/
theorem passes_of_readFraction {fraction : Option (List Char)}
    (h : readFraction cs = .ok (fraction, rest)) : Passes cs rest := by
  unfold readFraction at h
  split at h
  · rcases map_eq_ok_iff.1 h with ⟨_, hdigits, ⟨⟩⟩
    exact (Passes.plain (by decide) _).trans (passes_of_readDigits hdigits)
  · cases h
    exact .refl cs

/-- The power in an exponent is passed. -/
theorem passes_of_readPower {n : Int} (h : readPower cs = .ok (n, rest)) : Passes cs rest := by
  unfold readPower at h
  split at h
  case h_1 | h_2 =>
    rcases map_eq_ok_iff.1 h with ⟨_, hdigits, ⟨⟩⟩
    exact (Passes.plain (by decide) _).trans (passes_of_readDigits hdigits)
  case h_3 =>
    rcases map_eq_ok_iff.1 h with ⟨_, hdigits, ⟨⟩⟩
    exact passes_of_readDigits hdigits

/-- The exponent of a number is passed. -/
theorem passes_of_readExponent {exponent : Option Int}
    (h : readExponent cs = .ok (exponent, rest)) : Passes cs rest := by
  unfold readExponent at h
  split at h
  · rename_i c cs
    split at h
    · rename_i hmark
      have hc : isPlain c = true := by
        simp only [Bool.or_eq_true, beq_iff_eq] at hmark
        rcases hmark with rfl | rfl <;> decide
      rcases map_eq_ok_iff.1 h with ⟨_, hpower, ⟨⟩⟩
      exact (Passes.plain hc cs).trans (passes_of_readPower hpower)
    · cases h
      exact .refl _
  · cases h
    exact .refl _

/-- A number is no object. -/
theorem numberOf_ne_obj (negative : Bool) (whole : List Char) (fraction : Option (List Char))
    (exponent : Option Int) (ms : List (String × Json)) :
    numberOf negative whole fraction exponent ≠ .obj ms := by
  unfold numberOf
  split <;> exact Json.noConfusion

/-- Reading a number passes over it, and never gives an object. -/
theorem readMagnitude_spec {negative : Bool} {v : Json}
    (h : readMagnitude negative cs = .ok (v, rest)) : Passes cs rest ∧ ∀ ms, v ≠ .obj ms := by
  simp only [readMagnitude, bind_eq_ok_iff] at h
  rcases h with ⟨⟨whole, behind⟩, hwhole, h⟩
  split at h
  · cases h
  simp only [bind_eq_ok_iff] at h
  rcases h with ⟨⟨fraction, mid⟩, hfraction, ⟨exponent, tail⟩, hexponent, h⟩
  split at h
  · cases h
  · cases h
    exact ⟨((passes_of_readDigits hwhole).trans (passes_of_readFraction hfraction)).trans
      (passes_of_readExponent hexponent), numberOf_ne_obj _ _ _ _⟩

/-- A number is passed and is no object. -/
theorem readNumber_spec {v : Json} (h : readNumber cs = .ok (v, rest)) :
    Passes cs rest ∧ ∀ ms, v ≠ .obj ms := by
  unfold readNumber at h
  split at h
  · rcases readMagnitude_spec h with ⟨hpasses, hv⟩
    exact ⟨(Passes.plain (by decide) _).trans hpasses, hv⟩
  · split at h
    · exact readMagnitude_spec h
    · cases h
  · cases h

/-- The letters of a word are passed over. -/
theorem passes_of_afterLetters {word : List Char} (hword : word.all isPlain = true)
    (h : afterLetters word cs = .ok rest) : Passes cs rest := by
  fun_induction afterLetters word cs with
  | case1 cs =>
      cases h
      exact .refl _
  | case2 => cases h
  | case3 w word c cs hc ih =>
      rw [List.all_cons, Bool.and_eq_true] at hword
      rw [beq_iff_eq.1 hc]
      exact (Passes.plain hword.1 cs).trans (ih hword.2 h)
  | case4 => cases h

/-- Reading a word passes over it, and never gives an object. -/
theorem readWord_spec {v : Json} (h : readWord cs = .ok (v, rest)) :
    Passes cs rest ∧ ∀ ms, v ≠ .obj ms := by
  unfold readWord at h
  split at h
  case h_7 => exact readNumber_spec h
  case h_6 =>
    rcases map_eq_ok_iff.1 h with ⟨_, hletters, ⟨⟩⟩
    exact ⟨((Passes.plain (by decide) _).trans (.plain (by decide) _)).trans
      (passes_of_afterLetters (by decide) hletters), fun _ => Json.noConfusion⟩
  all_goals
    rcases map_eq_ok_iff.1 h with ⟨_, hletters, ⟨⟩⟩
    exact ⟨(Passes.plain (by decide) _).trans (passes_of_afterLetters (by decide) hletters),
      fun _ => Json.noConfusion⟩

/-! ## Documents -/

/-- A plain character behind blanks is passed over with them. -/
theorem passes_of_skipGap (hc : isPlain c = true) (h : skipGap cs = c :: rest) :
    Passes cs rest := by
  have hgap := passes_skipGap cs
  rw [h] at hgap
  exact hgap.trans (.plain hc rest)

/-- A key with its quotes and its colon is passed over. -/
theorem passes_of_readKey {key : String} (h : readKey cs = .ok (key, rest)) : Passes cs rest := by
  unfold readKey at h
  split at h
  · rename_i cs
    rcases bind_eq_ok_iff.1 h with ⟨⟨s, behind⟩, hs, h⟩
    have hstring : Passes ('"' :: cs) behind := lexes_of_readString hs
    refine hstring.trans ?_
    dsimp only at h
    split at h
    · rename_i hcolon
      cases h
      exact passes_of_skipGap (by decide) hcolon
    · cases h
    · cases h
  · cases h

/-- A container is passed over if its parts are. -/
theorem passes_of_readContainer {α : Type} {close : Char} {ended : Flaw}
    {deep : List Char → Complaint} {wrap : List α → Json} {depth : Nat}
    {parts : Nat → List Char → Reading (List α)} {v : Json} (hclose : isPlain close = true)
    (hparts : ∀ {depth cs xs rest}, parts depth cs = .ok (xs, rest) → Passes cs rest)
    (h : readContainer close ended deep wrap depth parts cs = .ok (v, rest)) : Passes cs rest := by
  have hgap := passes_skipGap cs
  unfold readContainer at h
  split at h
  · cases h
  · rename_i htext
    rw [htext] at hgap
    refine hgap.trans ?_
    split at h
    · rename_i hc
      cases h
      rw [beq_iff_eq.1 hc]
      exact .plain hclose _
    · split at h
      · cases h
      · rcases map_eq_ok_iff.1 h with ⟨⟨xs, _⟩, hxs, ⟨⟩⟩
        exact hparts hxs

/-- What follows a part is passed over, up to the next one. -/
theorem passes_of_readMore {close : Char} {ended unclosed : Flaw} {more : Bool}
    (hclose : isPlain close = true) (h : readMore close ended unclosed cs = .ok (more, rest)) :
    Passes cs rest := by
  have hgap := passes_skipGap cs
  unfold readMore at h
  split at h
  · cases h
  · rename_i htext
    rw [htext] at hgap
    refine hgap.trans ?_
    split at h
    · rename_i hc
      cases h
      rw [beq_iff_eq.1 hc]
      exact .plain hclose _
    · split at h
      · rename_i tail _ hcomma
        rw [beq_iff_eq.1 hcomma]
        refine (Passes.plain (by decide) _).trans ?_
        have hnext := passes_skipGap tail
        split at h
        · cases h
        · rename_i hmore
          rw [hmore] at hnext
          split at h
          · cases h
          · cases h
            exact hnext
      · cases h

/-- The readers pass over whatever they accept with some fuel. -/
structure ReadersPass (fuel : Nat) : Prop where
  value : ∀ {depth cs v rest}, readValue depth fuel cs = .ok (v, rest) → Passes cs rest
  items : ∀ {depth cs vs rest}, readItems depth fuel cs = .ok (vs, rest) → Passes cs rest
  members : ∀ {depth done cs ms rest}, readMembers depth fuel done cs = .ok (ms, rest) →
    Passes cs rest

variable {fuel depth : Nat}

/-- A value is passed if its items and members are. -/
theorem ReadersPass.value_succ (ih : ReadersPass fuel) {v : Json}
    (h : readValue depth (fuel + 1) cs = .ok (v, rest)) : Passes cs rest := by
  rw [readValue] at h
  split at h
  case h_1 => cases h
  case h_2 tail hopen =>
    rcases map_eq_ok_iff.1 h with ⟨⟨s, _⟩, hs, ⟨⟩⟩
    have hgap := passes_skipGap cs
    rw [hopen] at hgap
    exact hgap.trans (lexes_of_readString hs)
  case h_3 tail hopen =>
    have hitems := passes_of_readContainer (by decide) ih.items h
    exact (passes_of_skipGap (by decide) hopen).trans hitems
  case h_4 tail hopen =>
    have hmembers := passes_of_readContainer (by decide) ih.members h
    exact (passes_of_skipGap (by decide) hopen).trans hmembers
  case h_5 => exact (passes_skipGap cs).trans (readWord_spec h).1

/-- Items are passed if values and further items are. -/
theorem ReadersPass.items_succ (ih : ReadersPass fuel) {vs : List Json}
    (h : readItems depth (fuel + 1) cs = .ok (vs, rest)) : Passes cs rest := by
  simp only [readItems, bind_eq_ok_iff] at h
  rcases h with ⟨⟨v, _⟩, hv, ⟨more, _⟩, hmore, h⟩
  refine ((ih.value hv).trans (passes_of_readMore (by decide) hmore)).trans ?_
  split at h
  · rcases bind_eq_ok_iff.1 h with ⟨⟨vs, _⟩, hvs, ⟨⟩⟩
    exact ih.items hvs
  · cases h
    exact .refl _

/-- Members are passed if values and further members are. -/
theorem ReadersPass.members_succ (ih : ReadersPass fuel) {done ms : List (String × Json)}
    (h : readMembers depth (fuel + 1) done cs = .ok (ms, rest)) : Passes cs rest := by
  simp only [readMembers, bind_eq_ok_iff] at h
  rcases h with ⟨⟨key, _⟩, hkey, ⟨v, _⟩, hv, ⟨more, _⟩, hmore, h⟩
  refine ((passes_of_readKey hkey).trans (ih.value hv)).trans ?_
  refine (passes_of_readMore (by decide) hmore).trans ?_
  split at h
  · exact ih.members h
  · cases h
    exact .refl _

/-- Whatever the fuel, each reader passes what it reads. -/
theorem readersPass (fuel : Nat) : ReadersPass fuel := by
  induction fuel with
  | zero => exact ⟨by simp [readValue], by simp [readItems], by simp [readMembers]⟩
  | succ fuel ih => exact ⟨ih.value_succ, ih.items_succ, ih.members_succ⟩

/-- A document passes the walk from outside. -/
theorem lexes_of_parse {s : String} {v : Json} (h : parse depth s = .ok v) :
    lexes .outside s.toList = true := by
  simp only [parse, bind_eq_ok_iff] at h
  rcases h with ⟨⟨v, rest⟩, hv, h⟩
  split at h
  · rename_i hend
    have hrest := passes_skipGap rest
    rw [hend] at hrest
    exact ((readersPass _).value hv).trans hrest
  · cases h

/-- A list is no object. -/
theorem readList_ne_obj {items : Nat → List Char → Reading (List Json)}
    {ms : List (String × Json)} : readList depth items cs ≠ .ok (.obj ms, rest) := by
  unfold readList readContainer
  split
  · rintro ⟨⟩
  · split
    · rintro ⟨⟩
    · split
      · rintro ⟨⟩
      · intro h
        rcases map_eq_ok_iff.1 h with ⟨_, _, ⟨⟩⟩

/-- An object is written with a brace. -/
theorem brace_mem_of_parse {s : String} {ms : List (String × Json)}
    (h : parse depth s = .ok (.obj ms)) : '\x7b' ∈ s.toList := by
  simp only [parse, bind_eq_ok_iff] at h
  rcases h with ⟨⟨v, rest⟩, hv, h⟩
  split at h
  · cases h
    rw [readValue] at hv
    split at hv
    case h_1 => cases hv
    case h_2 => rcases map_eq_ok_iff.1 hv with ⟨_, _, ⟨⟩⟩
    case h_3 => exact absurd hv readList_ne_obj
    case h_4 tail hopen =>
      have hbrace : '\x7b' ∈ skipGap s.toList := by simp [hopen]
      exact (List.dropWhile_sublist _).subset hbrace
    case h_5 => exact absurd rfl ((readWord_spec hv).2 ms)
  · cases h

/-! ## Boundaries -/

/-- What follows an inner boundary in a document is no document. -/
theorem fails_parse_of_boundary {s : String} {v : Json} {before after : List Char}
    (h : parse depth s = .ok v) (hs : s.toList = before ++ c :: after)
    (hc : isInnerBoundary c = true) : Fails (parse depth (String.ofList after)) := by
  have hlexes := lexes_of_parse h
  rw [hs] at hlexes
  have houtside := not_lexes_outside (lexes_inside_of_boundary hc hlexes)
  cases hparse : parse depth (String.ofList after) with
  | error e => exact fails_error e
  | ok w =>
      have hpass := lexes_of_parse hparse
      rw [String.toList_ofList, houtside] at hpass
      cases hpass

end Json
end CrossAudit
