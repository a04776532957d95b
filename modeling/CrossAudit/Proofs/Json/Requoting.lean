import CrossAudit.Proofs.Json.Quotation

/-!
# Texts that differ within their strings

Whether a text is a document, and what is wrong with it if it is none, does not depend on what its
strings hold.  Two texts that hold different strings at the same places are read side by side:
their readers take the same branches, and either both end well or both make the same complaint,
if at different places.

Main results:

- Theorem `Requoted.refl`: a text differs within its strings from itself.
- Theorem `Requoted.readWord`, `Requoted.readKey`: tokens of such texts are read side by side.
- Theorem `readersAgree`: so are values, items and members, and the fuel never runs out.
- Theorem `Requoted.parse`: both texts are documents, or both have the same flaw.
-/

namespace CrossAudit
namespace Json

/-! ## Texts -/

/-- Texts that are the same up to the strings that they hold, and these are spelled alike.  Behind
the opening quote of a string that cannot be read, the texts are the same. -/
inductive Requoted (Same : String → String → Prop) : List Char → List Char → Prop where
  | nil : Requoted Same [] []
  | cons {c : Char} {cs cs' : List Char} (hc : c ≠ '"') (h : Requoted Same cs cs') :
      Requoted Same (c :: cs) (c :: cs')
  | string {s s' : String} {cs cs' rest rest' : List Char}
      (hread : readString [] cs = .ok (s, rest)) (hread' : readString [] cs' = .ok (s', rest'))
      (hsame : Same s s') (h : Requoted Same rest rest') : Requoted Same ('"' :: cs) ('"' :: cs')
  | broken {cs : List Char} (hfails : Fails (readString [] cs)) :
      Requoted Same ('"' :: cs) ('"' :: cs)

/-- A string takes at least its closing quote off the text. -/
theorem length_lt_of_readString {done cs rest : List Char} {s : String}
    (h : readString done cs = .ok (s, rest)) : rest.length < cs.length := by
  fun_induction readString done cs with
  | case2 =>
      cases h
      exact Nat.lt_succ_self _
  | case5 _ _ _ _ _ _ _ _ _ _ _ _ _ _ _ _ ih | case9 _ _ _ _ _ _ _ _ _ _ ih =>
      have hrest := ih h
      simp only [List.length_cons]
      omega
  | case11 _ _ _ _ _ _ _ ih | case15 _ _ _ _ _ _ _ _ _ ih =>
      have hrest := ih h
      simp only [List.length_cons]
      omega
  | _ => cases h

namespace Requoted

variable {Same : String → String → Prop} {c : Char} {cs cs' : List Char}

/-- A text differs within its strings from itself. -/
theorem refl (hsame : ∀ s, Same s s) (cs : List Char) : Requoted Same cs cs := by
  -- The text behind a string is shorter, but no tail of a list that an induction would give.
  induction hn : cs.length using Nat.strongRecOn generalizing cs with
  | _ n ih =>
      cases cs with
      | nil => exact .nil
      | cons c cs =>
          by_cases hc : c = '"'
          · subst hc
            cases hread : readString [] cs with
            | error e => exact .broken ⟨e, hread⟩
            | ok found =>
                obtain ⟨s, rest⟩ := found
                have hlt := length_lt_of_readString hread
                have hlength : rest.length < n := by
                  rw [← hn, List.length_cons]
                  omega
                exact .string hread hread (hsame s) (ih _ hlength rest rfl)
          · have hlength : cs.length < n := by
              rw [← hn, List.length_cons]
              omega
            exact .cons hc (ih _ hlength cs rfl)

/-- The same characters in front, none of them a quotation mark, make no difference. -/
theorem append (h : Requoted Same cs cs') {front : List Char} (hfront : '"' ∉ front) :
    Requoted Same (front ++ cs) (front ++ cs') := by
  induction front with
  | nil => exact h
  | cons c front ih =>
      rw [List.mem_cons, not_or] at hfront
      exact .cons (Ne.symm hfront.1) (ih hfront.2)

/-- Both texts are empty, or they start with the same character; behind one that is no quotation
mark they differ within strings only. -/
theorem eq_nil_or_exists_cons (h : Requoted Same cs cs') : cs = [] ∧ cs' = [] ∨
    ∃ c rest rest', cs = c :: rest ∧ cs' = c :: rest' ∧ (c ≠ '"' → Requoted Same rest rest') := by
  cases h with
  | nil => exact .inl ⟨rfl, rfl⟩
  | cons _ h => exact .inr ⟨_, _, _, rfl, rfl, fun _ => h⟩
  | string => exact .inr ⟨_, _, _, rfl, rfl, fun hc => absurd rfl hc⟩
  | broken => exact .inr ⟨_, _, _, rfl, rfl, fun hc => absurd rfl hc⟩

/-- Behind a character other than a quotation mark, the texts differ within strings only. -/
theorem exists_of_cons (hc : c ≠ '"') (h : Requoted Same (c :: cs) cs') :
    ∃ rest, cs' = c :: rest ∧ Requoted Same cs rest := by
  cases h with
  | cons _ h => exact ⟨_, rfl, h⟩
  | string => exact absurd rfl hc
  | broken => exact absurd rfl hc

/-- A text whose other version starts outside of quotes starts with the same character. -/
theorem exists_of_cons_right (hc : c ≠ '"') (h : Requoted Same cs (c :: cs')) :
    ∃ rest, cs = c :: rest ∧ Requoted Same rest cs' := by
  cases h with
  | cons _ h => exact ⟨_, rfl, h⟩
  | string => exact absurd rfl hc
  | broken => exact absurd rfl hc

/-- The same characters are in front of both texts, as long as they are no quotation marks. -/
theorem takeWhile_eq {p : Char → Bool} (hp : p '"' = false) (h : Requoted Same cs cs') :
    cs.takeWhile p = cs'.takeWhile p := by
  induction h with
  | nil => rfl
  | cons _ _ ih => simp only [List.takeWhile_cons, ih]
  | string => simp [hp]
  | broken => rfl

/-- Behind such characters the texts still differ within strings only. -/
theorem dropWhile {p : Char → Bool} (hp : p '"' = false) (h : Requoted Same cs cs') :
    Requoted Same (cs.dropWhile p) (cs'.dropWhile p) := by
  induction h with
  | nil => exact .nil
  | @cons c cs cs' hc h ih =>
      by_cases hpc : p c = true
      · simpa [hpc] using ih
      · simpa [hpc] using Requoted.cons hc h
  | string hread hread' hsame h => simpa [hp] using Requoted.string hread hread' hsame h
  | broken hfails => simpa [hp] using Requoted.broken hfails

/-- What follows a gap is requoted as the whole is. -/
theorem skipGap (h : Requoted Same cs cs') : Requoted Same (skipGap cs) (skipGap cs') :=
  h.dropWhile (by decide)

end Requoted

/-- Whether two texts are seen to differ within their strings only, in at most as many steps as a
given number. -/
def requotes (same : String → String → Bool) : Nat → List Char → List Char → Bool
  | fuel + 1, c :: cs, c' :: cs' =>
    if c == '"' && c' == '"' then
      match readString [] cs, readString [] cs' with
      | .ok (s, rest), .ok (s', rest') => same s s' && requotes same fuel rest rest'
      | .error _, _ => cs == cs'
      | _, _ => false
    else c != '"' && c == c' && requotes same fuel cs cs'
  | _, [], [] => true
  | _, _, _ => false

/-- Two texts that pass the check are requoted. -/
theorem requoted_of_requotes {Same : String → String → Prop} [DecidableRel Same] (fuel : Nat)
    {cs cs' : List Char} (h : requotes (fun s s' => decide (Same s s')) fuel cs cs' = true) :
    Requoted Same cs cs' := by
  fun_induction requotes (fun s s' => decide (Same s s')) fuel cs cs' with
  | case1 fuel c cs c' cs' hquotes s rest s' rest' hread' hread ih =>
      simp only [Bool.and_eq_true, beq_iff_eq, decide_eq_true_eq] at hquotes h
      obtain ⟨rfl, rfl⟩ := hquotes
      exact .string hread hread' h.1 (ih h.2)
  | case2 fuel c cs c' cs' hquotes complaint hfails =>
      simp only [Bool.and_eq_true, beq_iff_eq] at hquotes h
      obtain ⟨rfl, rfl⟩ := hquotes
      cases h
      exact .broken ⟨complaint, hfails⟩
  | case3 => cases h
  | case4 fuel c cs c' cs' _ ih =>
      simp only [Bool.and_eq_true, bne_iff_ne, beq_iff_eq] at h
      obtain ⟨⟨hc, rfl⟩, h⟩ := h
      exact .cons hc (ih h)
  | case5 => exact .nil
  | case6 => cases h

/-- Skipping a gap makes nothing longer. -/
theorem length_skipGap_le (cs : List Char) : (skipGap cs).length ≤ cs.length :=
  (List.dropWhile_sublist _).length_le

/-! ## Readings side by side -/

/-- Readings of two texts agree: what they read is related, what they leave is shorter than given
numbers and differs within strings only, or both have the same flaw to complain about. -/
inductive Agree (Same : String → String → Prop) {α : Type} (R : α → α → Prop) (n n' : Nat) :
    Except Complaint (α × List Char) → Except Complaint (α × List Char) → Prop where
  | ok {a a' : α} {rest rest' : List Char} (hread : R a a') (hrest : Requoted Same rest rest')
      (hlt : rest.length < n) (hlt' : rest'.length < n') :
      Agree Same R n n' (.ok (a, rest)) (.ok (a', rest'))
  | error {c c' : Complaint} (hflaw : c.flaw = c'.flaw) : Agree Same R n n' (.error c) (.error c')

/-- Any two values are related: nothing that follows depends on them. -/
abbrev Whatever {α : Type} (_ _ : α) : Prop :=
  True

namespace Agree

variable {Same : String → String → Prop} {α β : Type} {R : α → α → Prop} {S : β → β → Prop}
  {n n' m m' : Nat} {x x' : Except Complaint (α × List Char)}

/-- Readers that agree with some room to spare agree with more. -/
theorem mono (h : Agree Same R n n' x x') (hn : n ≤ m) (hn' : n' ≤ m') :
    Agree Same R m m' x x' := by
  cases h with
  | ok hread hrest hlt hlt' => exact .ok hread hrest (by omega) (by omega)
  | error hflaw => exact .error hflaw

/-- Two readers that meet the same flaw agree. -/
theorem flaw (flaw : Flaw) (rest rest' : List Char) :
    Agree Same R n n' (.error ⟨flaw, rest⟩) (.error ⟨flaw, rest'⟩) :=
  .error rfl

/-- Less may be said of what two readings read. -/
theorem weaken (h : Agree Same R n n' x x') {R' : α → α → Prop} (hR : ∀ {a a'}, R a a' → R' a a') :
    Agree Same R' n n' x x' := by
  cases h with
  | ok hread hrest hlt hlt' => exact .ok (hR hread) hrest hlt hlt'
  | error hflaw => exact .error hflaw

/-- Readings that go on in agreement agree. -/
theorem bind (h : Agree Same R n n' x x') {f f' : α × List Char → Except Complaint (β × List Char)}
    (hf : ∀ {a a' rest rest'}, R a a' → Requoted Same rest rest' → rest.length < n →
      rest'.length < n' → Agree Same S m m' (f (a, rest)) (f' (a', rest'))) :
    Agree Same S m m' (x >>= f) (x' >>= f') := by
  cases h with
  | ok hread hrest hlt hlt' => exact hf hread hrest hlt hlt'
  | error hflaw => exact .error hflaw

/-- Readings agree if their values are changed and what they leave is kept. -/
theorem map (h : Agree Same R n n' x x') {g g' : α → β} (hg : ∀ {a a'}, R a a' → S (g a) (g' a')) :
    Agree Same S n n' (x.map fun p => (g p.1, p.2)) (x'.map fun p => (g' p.1, p.2)) := by
  cases h with
  | ok hread hrest hlt hlt' => exact .ok (hg hread) hrest hlt hlt'
  | error hflaw => exact .error hflaw

end Agree

/-! ## Numbers and words -/

namespace Requoted

variable {Same : String → String → Prop} {cs cs' : List Char}

/-- Where a digit is wanted, requoted texts lack it alike. -/
theorem flaw_digitComplaint (h : Requoted Same cs cs') :
    (digitComplaint cs).flaw = (digitComplaint cs').flaw := by
  cases h <;> rfl

/-- Digits are read off both texts. -/
theorem readDigits (h : Requoted Same cs cs') :
    Agree Same Eq cs.length cs'.length (readDigits cs) (readDigits cs') := by
  have hdigits : cs.takeWhile Char.isDigit = cs'.takeWhile Char.isDigit :=
    h.takeWhile_eq (by decide)
  have hlength : ∀ {text : List Char}, (text.takeWhile Char.isDigit).isEmpty = false →
      (text.dropWhile Char.isDigit).length < text.length := by
    intro text hsome
    have hsplit := congrArg List.length (List.takeWhile_append_dropWhile (p := Char.isDigit)
      (l := text))
    have hpos := List.length_pos_iff.2 (List.isEmpty_eq_false_iff.1 hsome)
    rw [List.length_append] at hsplit
    omega
  unfold Json.readDigits
  cases hsome : (cs.takeWhile Char.isDigit).isEmpty with
  | true => simpa [← hdigits, hsome] using Agree.error h.flaw_digitComplaint
  | false =>
      have hsome' := hsome
      rw [hdigits] at hsome'
      simpa [← hdigits, hsome] using Agree.ok (R := Eq) (Eq.refl (cs.takeWhile Char.isDigit))
        (h.dropWhile (by decide)) (hlength hsome) (hlength hsome')

/-- The fractions of requoted texts are read alike. -/
theorem readFraction (h : Requoted Same cs cs') :
    Agree Same Eq (cs.length + 1) (cs'.length + 1) (readFraction cs) (readFraction cs') := by
  have hkept : Requoted Same cs cs' := h
  cases h with
  | nil => exact .ok rfl .nil (by simp) (by simp)
  | @cons c rest rest' hc h =>
      by_cases hpoint : c = '.'
      · subst hpoint
        exact (h.readDigits.map fun heq => congrArg some heq).mono (by simp; omega) (by simp; omega)
      · have hnone : ∀ text, Json.readFraction (c :: text) = .ok (none, c :: text) := by
          intro text
          simp [Json.readFraction, hpoint]
        rw [hnone, hnone]
        exact .ok rfl hkept (by simp) (by simp)
  | string => exact .ok rfl hkept (by simp) (by simp)
  | broken => exact .ok rfl hkept (by simp) (by simp)

/-- An exponent behind its mark is read off both texts. -/
theorem readPower (h : Requoted Same cs cs') :
    Agree Same Eq cs.length cs'.length (readPower cs) (readPower cs') := by
  have hkept : Requoted Same cs cs' := h
  have hdigits : Agree Same Eq cs.length cs'.length
      ((Json.readDigits cs).map fun p => ((digitsNat p.1 : Int), p.2))
      ((Json.readDigits cs').map fun p => ((digitsNat p.1 : Int), p.2)) :=
    h.readDigits.map fun heq => congrArg (fun ds => (digitsNat ds : Int)) heq
  cases h with
  | nil => exact hdigits
  | @cons c rest rest' hc h =>
      have hsigned : ∀ g : List Char → Int, Agree Same Eq (c :: rest).length (c :: rest').length
          ((Json.readDigits rest).map fun p => (g p.1, p.2))
          ((Json.readDigits rest').map fun p => (g p.1, p.2)) :=
        fun g => (h.readDigits.map fun heq => congrArg g heq).mono (by simp) (by simp)
      by_cases hminus : c = '-'
      · subst hminus
        exact hsigned fun ds => -(digitsNat ds : Int)
      · by_cases hplus : c = '+'
        · subst hplus
          exact hsigned fun ds => (digitsNat ds : Int)
        · have hplain : ∀ text, Json.readPower (c :: text) =
              (Json.readDigits (c :: text)).map fun p => ((digitsNat p.1 : Int), p.2) := by
            intro text
            simp [Json.readPower, hminus, hplus]
          rw [hplain, hplain]
          exact hdigits
  | string => exact hdigits
  | broken => exact hdigits

/-- The exponents of requoted texts are read alike. -/
theorem readExponent (h : Requoted Same cs cs') :
    Agree Same Eq (cs.length + 1) (cs'.length + 1) (readExponent cs) (readExponent cs') := by
  have hkept : Requoted Same cs cs' := h
  cases h with
  | nil => exact .ok rfl .nil (by simp) (by simp)
  | @cons c rest rest' hc h =>
      unfold Json.readExponent
      dsimp only
      split
      · exact (h.readPower.map fun heq => congrArg some heq).mono (by simp; omega) (by simp; omega)
      · exact .ok rfl hkept (by simp) (by simp)
  | string => exact .ok rfl hkept (by simp) (by simp)
  | broken => exact .ok rfl hkept (by simp) (by simp)

/-- A number without its sign is read off both texts. -/
theorem readMagnitude (h : Requoted Same cs cs') (negative : Bool) :
    Agree Same Eq cs.length cs'.length (readMagnitude negative cs)
      (readMagnitude negative cs') := by
  refine h.readDigits.bind fun {whole _ rest rest'} heq hrest hlt hlt' => ?_
  cases heq
  dsimp only
  split
  · exact .error rfl
  · refine hrest.readFraction.bind fun {fraction _ _ _} heq hrest hlt₂ hlt₂' => ?_
    cases heq
    refine hrest.readExponent.bind fun {exponent _ _ _} heq hrest hlt₃ hlt₃' => ?_
    cases heq
    dsimp only
    split
    · exact .error rfl
    · exact .ok rfl hrest (by omega) (by omega)

/-- The numbers of requoted texts are read alike. -/
theorem readNumber (h : Requoted Same cs cs') :
    Agree Same Eq cs.length cs'.length (readNumber cs) (readNumber cs') := by
  have hkept : Requoted Same cs cs' := h
  cases h with
  | nil => exact .error rfl
  | @cons c rest rest' hc h =>
      by_cases hminus : c = '-'
      · subst hminus
        exact (h.readMagnitude true).mono (by simp) (by simp)
      · have hplain : ∀ text, Json.readNumber (c :: text) =
            if c.isDigit then Json.readMagnitude false (c :: text)
            else .error ⟨.noValue, c :: text⟩ := by
          intro text
          simp [Json.readNumber]
        rw [hplain, hplain]
        split
        · exact hkept.readMagnitude false
        · exact .error rfl
  | string => exact .error rfl
  | broken => exact .error rfl

/-- The letters of a word are read off both texts. -/
theorem afterLetters (h : Requoted Same cs cs') (v : Json) {word : List Char}
    (hword : '"' ∉ word) :
    Agree Same Eq (cs.length + 1) (cs'.length + 1) ((afterLetters word cs).map (v, ·))
      ((afterLetters word cs').map (v, ·)) := by
  induction word generalizing cs cs' with
  | nil => exact .ok rfl h (by simp) (by simp)
  | cons w word ih =>
      rw [List.mem_cons, not_or] at hword
      have hquote : ∀ text, Json.afterLetters (w :: word) ('"' :: text) =
          .error ⟨.noWord, '"' :: text⟩ := by
        intro text
        simp [Json.afterLetters, hword.1]
      cases h with
      | nil => exact .error rfl
      | @cons c rest rest' hc h =>
          unfold Json.afterLetters
          split
          · exact (ih h hword.2).mono (by simp) (by simp)
          · exact .error rfl
      | string =>
          rw [hquote, hquote]
          exact .error rfl
      | broken =>
          rw [hquote]
          exact .error rfl

/-- A word or a number is read off both texts. -/
theorem readWord (h : Requoted Same cs cs') :
    Agree Same Eq cs.length cs'.length (readWord cs) (readWord cs') := by
  have hnumber := h.readNumber
  cases h with
  | nil => exact hnumber
  | string => exact hnumber
  | broken => exact hnumber
  | @cons c rest rest' hc h =>
      unfold Json.readWord
      split
      case h_1 | h_2 | h_3 | h_4 | h_5 =>
        rename_i heq
        cases heq
        exact (h.afterLetters _ (by decide)).mono (by simp) (by simp)
      case h_6 =>
        rename_i heq
        cases heq
        rcases h.exists_of_cons (by decide) with ⟨_, rfl, hrest⟩
        exact (hrest.afterLetters _ (by decide)).mono (by simp) (by simp)
      case h_7 hinfinite =>
        -- What is no word in one text is none in the other, as the letters in front are the same.
        split
        case h_7 => exact hnumber
        case h_6 heq =>
          cases heq
          rcases h.exists_of_cons_right (by decide) with ⟨tail, rfl, _⟩
          exact (hinfinite tail rfl).elim
        all_goals simp_all

/-! ## Strings and keys -/

/-- A string is read off both texts, whatever it holds. -/
theorem readString (h : Requoted Same ('"' :: cs) ('"' :: cs')) :
    Agree Same Whatever cs.length cs'.length (readString [] cs) (readString [] cs') := by
  cases h with
  | cons hc => exact absurd rfl hc
  | string hread hread' _ h =>
      rw [hread, hread']
      exact .ok trivial h (length_lt_of_readString hread) (length_lt_of_readString hread')
  | broken hfails =>
      rcases hfails with ⟨c, hfails⟩
      rw [hfails]
      exact .error rfl

/-- A key and its colon are read off both texts. -/
theorem readKey (h : Requoted Same cs cs') :
    Agree Same Whatever cs.length cs'.length (readKey cs) (readKey cs') := by
  have hquoted : ∀ {text text'}, Requoted Same ('"' :: text) ('"' :: text') →
      Agree Same Whatever ('"' :: text).length ('"' :: text').length (Json.readKey ('"' :: text))
        (Json.readKey ('"' :: text')) := by
    intro text text' h
    refine h.readString.bind fun {_ _ rest rest'} _ hrest hlt hlt' => ?_
    have hgap := hrest.skipGap
    have hle := length_skipGap_le rest
    have hle' := length_skipGap_le rest'
    dsimp only
    generalize Json.skipGap rest = behind at hgap hle ⊢
    generalize Json.skipGap rest' = behind' at hgap hle' ⊢
    rcases hgap.eq_nil_or_exists_cons with ⟨rfl, rfl⟩ | ⟨c, value, value', rfl, rfl, hvalue⟩
    · exact .error rfl
    · by_cases hcolon : c = ':'
      · subst hcolon
        simp only [List.length_cons] at hle hle' ⊢
        exact .ok trivial (hvalue (by decide)) (by omega) (by omega)
      · simpa [hcolon] using Agree.flaw .noColon _ _
  cases h with
  | nil => exact .error rfl
  | cons hc h => simpa [Json.readKey, hc] using Agree.flaw .noKey _ _
  | string hread hread' hsame h => exact hquoted (.string hread hread' hsame h)
  | broken hfails => exact hquoted (.broken hfails)

/-- The complaints about an object that is nested too deep are of one kind. -/
theorem flaw_depthComplaint (h : Requoted Same cs cs') :
    (depthComplaint cs).flaw = (depthComplaint cs').flaw := by
  have hkey := h.readKey
  unfold depthComplaint
  generalize Json.readKey cs = key at hkey ⊢
  generalize Json.readKey cs' = key' at hkey ⊢
  cases hkey with
  | error hflaw => exact hflaw
  | ok _ hrest _ _ =>
      have hgap := hrest.skipGap
      dsimp only
      generalize Json.skipGap _ = text at hgap ⊢
      generalize Json.skipGap _ = text' at hgap ⊢
      rcases hgap.eq_nil_or_exists_cons with ⟨rfl, rfl⟩ | ⟨_, _, _, rfl, rfl, _⟩
      · rfl
      · rfl

/-- What follows a part of a container is read off both texts. -/
theorem readMore (h : Requoted Same cs cs') {close : Char} (hclose : close ≠ '"')
    (ended unclosed : Flaw) :
    Agree Same Eq cs.length cs'.length (readMore close ended unclosed cs)
      (readMore close ended unclosed cs') := by
  have hle := length_skipGap_le cs
  have hle' := length_skipGap_le cs'
  have hgap := h.skipGap
  unfold Json.readMore
  generalize Json.skipGap cs = text at hgap hle ⊢
  generalize Json.skipGap cs' = text' at hgap hle' ⊢
  rcases hgap.eq_nil_or_exists_cons with ⟨rfl, rfl⟩ | ⟨c, rest, rest', rfl, rfl, hrest⟩
  · exact .error rfl
  · simp only [List.length_cons] at hle hle'
    dsimp only
    split
    · rename_i hc
      have hrest := hrest (ne_of_eq_of_ne (beq_iff_eq.1 hc) hclose)
      exact .ok rfl hrest (by omega) (by omega)
    · split
      · rename_i _ hcomma
        have hrest := hrest (ne_of_eq_of_ne (beq_iff_eq.1 hcomma) (by decide))
        have hnext := hrest.skipGap
        have hlt := length_skipGap_le rest
        have hlt' := length_skipGap_le rest'
        generalize Json.skipGap rest = next at hnext hlt ⊢
        generalize Json.skipGap rest' = next' at hnext hlt' ⊢
        rcases hnext.eq_nil_or_exists_cons with ⟨rfl, rfl⟩ | ⟨_, _, _, rfl, rfl, _⟩
        · exact .error rfl
        · dsimp only
          split
          · exact .error rfl
          · exact .ok rfl hnext (by omega) (by omega)
      · exact .error rfl

/-- A container is read off both texts if its parts are. -/
theorem readContainer {α : Type} (h : Requoted Same cs cs') {close : Char} (hclose : close ≠ '"')
    (ended : Flaw) {deep : List Char → Complaint} (wrap : List α → Json) (depth : Nat)
    {parts parts' : Nat → List Char → Reading (List α)}
    (hdeep : ∀ {text text'}, Requoted Same text text' → (deep text).flaw = (deep text').flaw)
    (hparts : ∀ {depth text text'}, Requoted Same text text' → text.length ≤ cs.length →
      text'.length ≤ cs'.length → Agree Same Whatever text.length text'.length (parts depth text)
        (parts' depth text')) :
    Agree Same Whatever (cs.length + 1) (cs'.length + 1)
      (readContainer close ended deep wrap depth parts cs)
      (readContainer close ended deep wrap depth parts' cs') := by
  have hle := length_skipGap_le cs
  have hle' := length_skipGap_le cs'
  have hgap := h.skipGap
  unfold Json.readContainer
  generalize Json.skipGap cs = text at hgap hle ⊢
  generalize Json.skipGap cs' = text' at hgap hle' ⊢
  have hwrapped : ∀ depth, Agree Same Whatever (cs.length + 1) (cs'.length + 1)
      ((parts depth text).map fun p => (wrap p.1, p.2))
      ((parts' depth text').map fun p => (wrap p.1, p.2)) :=
    fun depth => ((hparts hgap hle hle').map fun _ => trivial).mono (by omega) (by omega)
  have hflaw := hdeep hgap
  rcases hgap.eq_nil_or_exists_cons with ⟨rfl, rfl⟩ | ⟨c, rest, rest', rfl, rfl, hrest⟩
  · exact .error rfl
  · simp only [List.length_cons] at hle hle'
    dsimp only
    split
    · rename_i hc
      have hrest := hrest (ne_of_eq_of_ne (beq_iff_eq.1 hc) hclose)
      exact .ok trivial hrest (by omega) (by omega)
    · cases depth with
      | zero => exact .error hflaw
      | succ depth => exact hwrapped depth

end Requoted

/-! ## Documents -/

/-- Values, items and members are read off both texts, if the fuel is enough. -/
structure ReadersAgree (Same : String → String → Prop) (fuel fuel' : Nat) : Prop where
  value : ∀ {depth cs cs'}, Requoted Same cs cs' → 2 * cs.length < fuel →
    2 * cs'.length < fuel' → Agree Same Whatever cs.length cs'.length (readValue depth fuel cs)
      (readValue depth fuel' cs')
  items : ∀ {depth cs cs'}, Requoted Same cs cs' → 2 * cs.length + 1 < fuel →
    2 * cs'.length + 1 < fuel' → Agree Same Whatever cs.length cs'.length
      (readItems depth fuel cs) (readItems depth fuel' cs')
  members : ∀ {depth done done' cs cs'}, Requoted Same cs cs' → 2 * cs.length + 1 < fuel →
    2 * cs'.length + 1 < fuel' → Agree Same Whatever cs.length cs'.length
      (readMembers depth fuel done cs) (readMembers depth fuel' done' cs')

namespace ReadersAgree

variable {Same : String → String → Prop} {fuel fuel' depth : Nat} {cs cs' : List Char}

/-- Lists of requoted texts are read alike if their items are. -/
theorem list (ih : ReadersAgree Same fuel fuel') (h : Requoted Same cs cs')
    (hfuel : 2 * cs.length + 1 < fuel) (hfuel' : 2 * cs'.length + 1 < fuel') :
    Agree Same Whatever (cs.length + 1) (cs'.length + 1)
      (readList depth (fun depth => readItems depth fuel) cs)
      (readList depth (fun depth => readItems depth fuel') cs') := by
  refine h.readContainer (by decide) .endOfList arr depth ?_ ?_
  · exact fun _ => rfl
  · exact fun htext hlt hlt' => ih.items htext (by omega) (by omega)

/-- Objects of requoted texts are read alike if their members are. -/
theorem object (ih : ReadersAgree Same fuel fuel') (h : Requoted Same cs cs')
    (hfuel : 2 * cs.length + 1 < fuel) (hfuel' : 2 * cs'.length + 1 < fuel') :
    Agree Same Whatever (cs.length + 1) (cs'.length + 1)
      (readObject depth (fun depth => readMembers depth fuel []) cs)
      (readObject depth (fun depth => readMembers depth fuel' []) cs') := by
  refine h.readContainer (by decide) .endOfObject obj depth ?_ ?_
  · exact fun htext => htext.flaw_depthComplaint
  · exact fun htext hlt hlt' => ih.members htext (by omega) (by omega)

/-- Values are read alike if their items and members are. -/
theorem value_succ (ih : ReadersAgree Same fuel fuel') (h : Requoted Same cs cs')
    (hfuel : 2 * cs.length < fuel + 1) (hfuel' : 2 * cs'.length < fuel' + 1) :
    Agree Same Whatever cs.length cs'.length (readValue depth (fuel + 1) cs)
      (readValue depth (fuel' + 1) cs') := by
  have hle := length_skipGap_le cs
  have hle' := length_skipGap_le cs'
  have hgap := h.skipGap
  rw [readValue, readValue]
  generalize skipGap cs = text at hgap hle ⊢
  generalize skipGap cs' = text' at hgap hle' ⊢
  have hword := hgap.readWord
  have hquoted : ∀ {rest rest'}, Requoted Same ('"' :: rest) ('"' :: rest') →
      ('"' :: rest).length ≤ cs.length → ('"' :: rest').length ≤ cs'.length →
      Agree Same Whatever cs.length cs'.length
        ((readString [] rest).map fun p => (str p.1, p.2))
        ((readString [] rest').map fun p => (str p.1, p.2)) := by
    intro rest rest' h hle hle'
    simp only [List.length_cons] at hle hle'
    exact (h.readString.map fun _ => trivial).mono (by omega) (by omega)
  cases hgap with
  | nil => exact .error rfl
  | string hread hread' hsame h => exact hquoted (.string hread hread' hsame h) hle hle'
  | broken hfails => exact hquoted (.broken hfails) hle hle'
  | @cons c rest rest' hc h =>
      simp only [List.length_cons] at hle hle'
      by_cases hlist : c = '['
      · subst hlist
        exact (ih.list h (by omega) (by omega)).mono (by omega) (by omega)
      · by_cases hobject : c = '\x7b'
        · subst hobject
          exact (ih.object h (by omega) (by omega)).mono (by omega) (by omega)
        · simpa [hlist, hobject, hc] using
            (hword.mono (by simpa using hle) (by simpa using hle')).weaken fun _ => trivial

/-- Items are read alike if values and further items are. -/
theorem items_succ (ih : ReadersAgree Same fuel fuel') (h : Requoted Same cs cs')
    (hfuel : 2 * cs.length + 1 < fuel + 1) (hfuel' : 2 * cs'.length + 1 < fuel' + 1) :
    Agree Same Whatever cs.length cs'.length (readItems depth (fuel + 1) cs)
      (readItems depth (fuel' + 1) cs') := by
  rw [readItems, readItems]
  refine (ih.value h (by omega) (by omega)).bind fun _ hrest hlt hlt' => ?_
  refine (hrest.readMore (by decide) _ _).bind fun {more _ _ _} heq hrest hlt₂ hlt₂' => ?_
  cases heq
  cases more with
  | false => exact .ok trivial hrest (by omega) (by omega)
  | true =>
      exact (ih.items hrest (by omega) (by omega)).bind fun _ hrest hlt₃ hlt₃' =>
        .ok trivial hrest (by omega) (by omega)

/-- Members are read alike if values and further members are, whatever was read before. -/
theorem members_succ (ih : ReadersAgree Same fuel fuel') {done done' : List (String × Json)}
    (h : Requoted Same cs cs') (hfuel : 2 * cs.length + 1 < fuel + 1)
    (hfuel' : 2 * cs'.length + 1 < fuel' + 1) :
    Agree Same Whatever cs.length cs'.length (readMembers depth (fuel + 1) done cs)
      (readMembers depth (fuel' + 1) done' cs') := by
  rw [readMembers, readMembers]
  refine h.readKey.bind fun _ hrest hlt hlt' => ?_
  refine (ih.value hrest (by omega) (by omega)).bind fun _ hrest hlt₂ hlt₂' => ?_
  refine (hrest.readMore (by decide) _ _).bind fun {more _ _ _} heq hrest hlt₃ hlt₃' => ?_
  cases heq
  cases more with
  | false => exact .ok trivial hrest (by omega) (by omega)
  | true => exact (ih.members hrest (by omega) (by omega)).mono (by omega) (by omega)

end ReadersAgree

/-- The readers agree on requoted texts, whatever the fuel of each. -/
theorem readersAgree (Same : String → String → Prop) (fuel fuel' : Nat) :
    ReadersAgree Same fuel fuel' := by
  induction fuel generalizing fuel' with
  | zero => exact ⟨by omega, by omega, by omega⟩
  | succ fuel ih =>
      cases fuel' with
      | zero => exact ⟨by omega, by omega, by omega⟩
      | succ fuel' =>
          exact ⟨(ih fuel').value_succ, (ih fuel').items_succ, (ih fuel').members_succ⟩

/-- Of two texts that differ within their strings only, both are documents, or both have the same
flaw. -/
theorem Requoted.parse {Same : String → String → Prop} {d d' : String}
    (h : Requoted Same d.toList d'.toList) (depth : Nat) :
    (∃ j j', parse depth d = .ok j ∧ parse depth d' = .ok j') ∨
      ∃ c c', parse depth d = .error c ∧ parse depth d' = .error c' ∧ c.flaw = c'.flaw := by
  have hvalue : Agree Same Whatever d.toList.length d'.toList.length
      (readValue depth (2 * d.toList.length + 1) d.toList)
      (readValue depth (2 * d'.toList.length + 1) d'.toList) :=
    (readersAgree Same _ _).value h (Nat.lt_succ_self _) (Nat.lt_succ_self _)
  simp only [Json.parse]
  generalize readValue depth _ d.toList = x at hvalue ⊢
  generalize readValue depth _ d'.toList = x' at hvalue ⊢
  cases hvalue with
  | @error c c' hflaw => exact .inr ⟨c, c', rfl, rfl, hflaw⟩
  | @ok v v' _ _ _ hrest _ _ =>
      have hgap := hrest.skipGap
      simp only [bind, Except.bind]
      generalize Json.skipGap _ = text at hgap ⊢
      generalize Json.skipGap _ = text' at hgap ⊢
      rcases hgap.eq_nil_or_exists_cons with ⟨rfl, rfl⟩ | ⟨_, _, _, rfl, rfl, _⟩
      · exact .inl ⟨v, v', rfl, rfl⟩
      · exact .inr ⟨_, _, rfl, rfl, rfl⟩

end Json
end CrossAudit
