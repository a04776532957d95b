import CrossAudit.Json.Printer
import CrossAudit.Proofs.Text.Occurrence
import CrossAudit.Total

/-!
# Documents in the script of a page

The script of a web page ends where the text `</script` stands, whatever the case of its letters,
and be it in the middle of a string.  A printed document has that text exactly where its strings
have it: the angle bracket and the slash are not escaped, and nothing else that a document is
printed with has an angle bracket.

Main results:

- Theorem `Text.scriptEnds_across`: texts on the two sides of a gap count apart.
- Theorem `scriptEnds_quoted`: a quoted string ends a script as often as the string does.
- Theorem `scriptEnds_render`: a printed document does as often as its strings together.
-/

namespace CrossAudit

/-! ## Ends of scripts in texts -/

namespace Text

/-- The text at which a script ends, in lower case. -/
def scriptEnd : List Char :=
  "</script".toList

/-- How often a text in a script would end it. -/
def scriptEnds (s : String) : Nat :=
  Chars.countFolded scriptEnd s.toList

/-- How often texts would end the scripts they stand in. -/
def scriptEndsOf (texts : List String) : Nat :=
  total (texts.map scriptEnds)

variable {s t gap : String}

/-- The closing tags of a script are counted in the characters, without regard to case. -/
theorem scriptEnds_ofList (cs : List Char) :
    scriptEnds (String.ofList cs) = Chars.countFolded scriptEnd cs := by
  rw [scriptEnds, String.toList_ofList]

/-- A character that is no capital letter is the same in lower case. -/
theorem toLower_eq_self {c : Char} (h : c.toNat < 65 ∨ 90 < c.toNat) : c.toLower = c := by
  refine dif_neg fun hupper => ?_
  have hlow : 65 ≤ c.toNat := hupper.1
  have hhigh : c.toNat ≤ 90 := hupper.2
  omega

/-- A capital letter stands 32 places further on in lower case. -/
theorem toNat_toLower {c : Char} (hlow : 65 ≤ c.toNat) (hhigh : c.toNat ≤ 90) :
    c.toLower.toNat = c.toNat + 32 := by
  have hval : c.toLower.val = c.val + 32 := congrArg Char.val (dif_pos ⟨hlow, hhigh⟩)
  have hnat : (c.val + 32).toNat = (c.toNat + 32) % 2 ^ 32 := UInt32.toNat_add c.val 32
  rw [Char.toNat, hval, hnat]
  omega

/-- No other character than the angle bracket becomes one in lower case. -/
theorem toLower_ne_angle {c : Char} (h : c ≠ '<') : c.toLower ≠ '<' := by
  intro heq
  by_cases hupper : 65 ≤ c.toNat ∧ c.toNat ≤ 90
  · have hshift := toNat_toLower hupper.1 hupper.2
    have hangle : '<'.toNat = 60 := rfl
    rw [heq, hangle] at hshift
    omega
  · rw [toLower_eq_self (by omega)] at heq
    exact h heq

/-- A text without an angle bracket does not count in front of another one. -/
theorem scriptEnds_append_of_plain (h : '<' ∉ s.toList) :
    scriptEnds (s ++ t) = scriptEnds t := by
  rw [scriptEnds, String.toList_append]
  exact Chars.countFolded_append_of_head fun c hc =>
    toLower_ne_angle fun heq => h (heq ▸ hc)

/-- A text without an angle bracket closes no script. -/
theorem scriptEnds_of_plain (h : '<' ∉ s.toList) : scriptEnds s = 0 := by
  have hempty : scriptEnds (s ++ "") = scriptEnds "" := scriptEnds_append_of_plain h
  rwa [String.append_empty] at hempty

/-- Whether a text has no angle bracket, and in front a character that is foreign to the end of a
script. -/
def separates (gap : String) : Bool :=
  !gap.toList.contains '<' && gap.toList.head?.any fun x => !scriptEnd.contains x.toLower

/-- What stands on the two sides of a gap counts apart. -/
theorem scriptEnds_across (hgap : separates gap = true) :
    scriptEnds (s ++ gap ++ t) = scriptEnds s + scriptEnds t := by
  rw [separates, Bool.and_eq_true, Option.any_eq_true] at hgap
  obtain ⟨hplain, x, hx, hforeign⟩ := hgap
  have hplain' : '<' ∉ gap.toList := by simpa using hplain
  have hforeign' : x.toLower ∉ scriptEnd := by simpa using hforeign
  calc
    scriptEnds (s ++ gap ++ t) = Chars.countFolded scriptEnd (s.toList ++ (gap ++ t).toList) := by
      rw [scriptEnds, String.append_assoc, String.toList_append]
    _ = scriptEnds s + scriptEnds (gap ++ t) := by
      refine Chars.countFolded_append (by decide) fun y hy => ?_
      rw [String.toList_append, List.head?_append, hx, Option.some_or] at hy
      rw [← Option.some.inj hy]
      exact hforeign'
    _ = scriptEnds s + scriptEnds t := by rw [scriptEnds_append_of_plain hplain']

/-- What stands in front and behind does not count. -/
theorem scriptEnds_between {opening closing : String} (hopening : '<' ∉ opening.toList)
    (hclosing : separates closing = true) : scriptEnds (opening ++ s ++ closing) = scriptEnds s := by
  calc
    scriptEnds (opening ++ s ++ closing) = scriptEnds (s ++ closing ++ "") := by
      rw [String.append_assoc, scriptEnds_append_of_plain hopening, String.append_empty]
    _ = scriptEnds s + scriptEnds "" := scriptEnds_across hclosing
    _ = scriptEnds s := rfl

@[simp] theorem scriptEndsOf_nil : scriptEndsOf [] = 0 := rfl

@[simp] theorem scriptEndsOf_cons : scriptEndsOf (s :: ts) = scriptEnds s + scriptEndsOf ts := rfl

@[simp] theorem scriptEndsOf_append (ss ts : List String) :
    scriptEndsOf (ss ++ ts) = scriptEndsOf ss + scriptEndsOf ts := by
  rw [scriptEndsOf, List.map_append, total_append]
  rfl

/-- Several texts close no script exactly if none of them does. -/
theorem scriptEndsOf_eq_zero_iff {ts : List String} :
    scriptEndsOf ts = 0 ↔ ∀ t ∈ ts, scriptEnds t = 0 := by
  induction ts with
  | nil => simp
  | cons t ts ih => rw [scriptEndsOf_cons, Nat.add_eq_zero_iff, ih, List.forall_mem_cons]

/-- The ends of scripts in lines are those in each of them. -/
theorem scriptEnds_joinLines (lines : List String) :
    scriptEnds (join "\n" lines) = scriptEndsOf lines := by
  induction lines with
  | nil => rfl
  | cons line lines ih =>
      cases lines with
      | nil => rw [join, String.intercalate_singleton]; rfl
      | cons next lines =>
          rw [join, String.intercalate_cons_cons, scriptEnds_across (by decide), scriptEndsOf_cons]
          exact congrArg _ ih

end Text

/-! ## Numerals -/

/-- Digits are no angle brackets. -/
theorem angle_notMem_toDigits {base : Nat} (hbase : 1 < base) (n : Nat) :
    '<' ∉ Nat.toDigits base n := by
  have hdigit : ∀ m, '<' ≠ Nat.digitChar m := fun m => (Nat.digitChar_ne '<' (by decide)).symm
  induction n using Nat.strongRecOn with
  | _ n ih =>
      rw [Nat.toDigits_eq_if hbase]
      split
      case isTrue => exact fun h => hdigit n (List.mem_singleton.1 h)
      case isFalse hle =>
        have hrest := ih (n / base) (Nat.div_lt_self (by omega) hbase)
        rw [List.mem_append, List.mem_singleton, not_or]
        exact ⟨hrest, hdigit (n % base)⟩

/-- The text of an integer has no angle bracket. -/
theorem angle_notMem_toString (n : Int) : '<' ∉ (toString n).toList := by
  cases n with
  | ofNat m =>
      show '<' ∉ (Nat.repr m).toList
      rw [Nat.toList_repr]
      exact angle_notMem_toDigits (by decide) m
  | negSucc m =>
      show '<' ∉ ("-" ++ Nat.repr (m + 1)).toList
      rw [String.toList_append, Nat.toList_repr, List.mem_append, not_or]
      exact ⟨by decide, angle_notMem_toDigits (by decide) (m + 1)⟩

namespace Decimal

/-- Decimal digits are no angle brackets. -/
theorem angle_notMem_digits (n : Nat) : '<' ∉ digits n :=
  angle_notMem_toDigits (by decide) n

/-- Laying out digits brings in no angle bracket. -/
theorem angle_notMem_layOut {ds : List Char} (hds : '<' ∉ ds) (form : Form) (exponent : Int) :
    '<' ∉ layOut form ds exponent := by
  have hexponent : '<' ∉ exponentPart form.exponentWidth exponent := by
    have hdigits := angle_notMem_digits exponent.natAbs
    by_cases hneg : exponent < 0 <;> simp [exponentPart, padLeft, hneg, hdigits]
  have hdrop : ∀ n, '<' ∉ ds.drop n := fun n h => hds (List.mem_of_mem_drop h)
  have htake : ∀ n, '<' ∉ ds.take n := fun n h => hds (List.mem_of_mem_take h)
  unfold layOut
  split
  case isTrue =>
    cases ds with
    | nil => simp
    | cons d more =>
        rw [List.mem_cons, not_or] at hds
        cases more <;> simp_all
  case isFalse =>
    split
    case isTrue => simp [hds]
    case isFalse =>
      cases hpart : ds.drop (exponent.natAbs + 1) with
      | nil => simp [hpart, htake]
      | cons d more =>
          have hmore := hpart ▸ hdrop (exponent.natAbs + 1)
          simpa [hpart, htake] using hmore

/-- The text of a number has no angle bracket. -/
theorem angle_notMem_document (x : Binary64) : '<' ∉ (text document x).toList := by
  cases x with
  | finite s m =>
      have hsign : '<' ∉ sign s := by cases s <;> decide
      have hmagnitude : '<' ∉ magnitudeText document m := by
        rw [magnitudeText]
        split
        case isTrue => decide
        case isFalse =>
          refine angle_notMem_layOut (fun h => ?_) _ _
          rw [dropZeros, List.mem_reverse] at h
          exact angle_notMem_digits _ (List.mem_reverse.1 ((List.dropWhile_sublist _).subset h))
      rw [text, String.toList_ofList, List.mem_append, not_or]
      exact ⟨hsign, hmagnitude⟩
  | infinite s => cases s <;> decide
  | undefined => decide

end Decimal

/-! ## Printed documents -/

namespace Json

open Text

mutual

/-- The texts in a document: its strings, and the keys of its objects. -/
def texts : Json → List String
  | .str s => [s]
  | .arr xs => itemTexts xs
  | .obj ms => memberTexts ms
  | _ => []

/-- The texts in the items of an array. -/
def itemTexts : List Json → List String
  | [] => []
  | x :: xs => texts x ++ itemTexts xs

/-- The texts in the members of an object. -/
def memberTexts : List (String × Json) → List String
  | [] => []
  | (k, v) :: ms => k :: (texts v ++ memberTexts ms)

end

/-- What may be put for a character in a script without a change to its ends. -/
def StandsFor (escaped : List Char) (c : Char) : Prop :=
  Chars.StandsFor '<' "/script".toList escaped c

/-- Anything without an angle bracket may be put behind a backslash for a foreign character. -/
theorem standsFor_escape {c : Char} {tail : List Char} (hc : c.toLower ∉ scriptEnd)
    (htail : '<' ∉ tail) : StandsFor ('\\' :: tail) c :=
  Or.inr ⟨hc, '\\', tail, rfl, by decide, fun _ hd => toLower_ne_angle fun h => htail (h ▸ hd)⟩

/-- A character outside printable ASCII is foreign to the end of a script. -/
theorem toLower_notMem_scriptEnd {c : Char} (h : c.toNat < 0x20 ∨ 0x7f ≤ c.toNat) :
    c.toLower ∉ scriptEnd := by
  have hsame : c.toLower = c := toLower_eq_self (by omega)
  have hprintable : (scriptEnd.all fun d => 0x20 ≤ d.toNat && d.toNat < 0x7f) = true := by decide
  intro hmem
  rw [hsame] at hmem
  have hbounds : 0x20 ≤ c.toNat ∧ c.toNat < 0x7f := by
    simpa using List.all_eq_true.1 hprintable c hmem
  omega

/-- The escape of a code unit has no angle bracket. -/
theorem angle_notMem_unit (n : Nat) : '<' ∉ 'u' :: Quoted.hex 4 n := by
  have hdigits := angle_notMem_toDigits (by decide : 1 < 16) n
  simp [Quoted.hex, hdigits]

/-- An escaped character stands for one that is in no closing tag. -/
theorem standsFor_escapeUnits {c : Char} (hc : c.toLower ∉ scriptEnd) :
    StandsFor (escapeUnits c) c := by
  rw [escapeUnits]
  split
  case isTrue => exact standsFor_escape hc (angle_notMem_unit _)
  case isFalse =>
    refine standsFor_escape hc (List.not_mem_append (angle_notMem_unit _) ?_)
    exact List.not_mem_cons_of_ne_of_not_mem (by decide) (angle_notMem_unit _)

/-- What a character is written as in a quoted string does not change the ends of a script. -/
theorem standsFor_escapeChar (ascii : Bool) (c : Char) : StandsFor (escapeChar ascii c) c := by
  have hforeign : ∀ {d : Char}, d.toLower ∉ scriptEnd → (c == d) = true → c.toLower ∉ scriptEnd :=
    fun hd heq => eq_of_beq heq ▸ hd
  have hcontrol : ∀ {n : Nat}, n < 0x20 → (c.toNat == n) = true → c.toLower ∉ scriptEnd :=
    fun hn heq => toLower_notMem_scriptEnd (Or.inl (eq_of_beq heq ▸ hn))
  rw [escapeChar]
  split
  case isTrue h => exact standsFor_escape (hforeign (by decide) h) (by decide)
  split
  case isTrue h => exact standsFor_escape (hforeign (by decide) h) (by decide)
  split
  case isTrue h => exact standsFor_escape (hforeign (by decide) h) (by decide)
  split
  case isTrue h => exact standsFor_escape (hforeign (by decide) h) (by decide)
  split
  case isTrue h => exact standsFor_escape (hforeign (by decide) h) (by decide)
  split
  case isTrue h => exact standsFor_escape (hcontrol (by decide) h) (by decide)
  split
  case isTrue h => exact standsFor_escape (hcontrol (by decide) h) (by decide)
  split
  case isTrue h =>
    exact standsFor_escape (toLower_notMem_scriptEnd (Or.inl h)) (angle_notMem_unit _)
  split
  case isTrue h =>
    have hout : 0x7f ≤ c.toNat := of_decide_eq_true (Bool.and_eq_true_iff.1 h).2
    exact standsFor_escapeUnits (toLower_notMem_scriptEnd (Or.inr hout))
  case isFalse => exact Or.inl rfl

/-- A quoted string ends a script as often as the string does. -/
theorem scriptEnds_quoted (ascii : Bool) (s : String) :
    scriptEnds (quoted ascii s) = scriptEnds s := by
  have hquoted : quoted ascii s =
      "\"" ++ String.ofList (s.toList.flatMap (escapeChar ascii)) ++ "\"" := by
    rw [← String.toList_inj]
    simp [quoted]
  calc
    scriptEnds (quoted ascii s)
        = scriptEnds (String.ofList (s.toList.flatMap (escapeChar ascii))) := by
      rw [hquoted, scriptEnds_between (by decide) (by decide)]
    _ = Chars.countFolded scriptEnd (s.toList.flatMap (escapeChar ascii)) := by
      rw [scriptEnds_ofList]
    _ = scriptEnds s := Chars.countFolded_flatMap (standsFor_escapeChar ascii) s.toList

/-! ### Items and members -/

/-- The items after the first one stand behind a comma. -/
theorem scriptEnds_append_items (s : String) (xs : List Json) :
    scriptEnds (s ++ renderItems spacedAscii false xs) =
      scriptEnds s + scriptEnds (renderItems spacedAscii true xs) := by
  cases xs with
  | nil => rw [renderItems, renderItems, String.append_empty]; rfl
  | cons x xs =>
      have hgap : renderItems spacedAscii false (x :: xs) =
          ", " ++ renderItems spacedAscii true (x :: xs) := by
        simp [renderItems, spacedAscii, String.append_assoc]
      rw [hgap, ← String.append_assoc, scriptEnds_across (by decide)]

/-- The members after the first one stand behind a comma. -/
theorem scriptEnds_append_members (s : String) (ms : List (String × Json)) :
    scriptEnds (s ++ renderMembers spacedAscii false ms) =
      scriptEnds s + scriptEnds (renderMembers spacedAscii true ms) := by
  cases ms with
  | nil => rw [renderMembers, renderMembers, String.append_empty]; rfl
  | cons m ms =>
      have hgap : renderMembers spacedAscii false (m :: ms) =
          ", " ++ renderMembers spacedAscii true (m :: ms) := by
        simp [renderMembers, spacedAscii, String.append_assoc]
      rw [hgap, ← String.append_assoc, scriptEnds_across (by decide)]

/-- No members have no texts to count in. -/
theorem scriptEndsOf_memberTexts_nil : scriptEndsOf (memberTexts []) = 0 := by
  rw [memberTexts]
  rfl

/-- A key without an angle bracket does not count. -/
theorem scriptEndsOf_memberTexts_cons {key : String} (hkey : '<' ∉ key.toList) (v : Json)
    (ms : List (String × Json)) :
    scriptEndsOf (memberTexts ((key, v) :: ms)) =
      scriptEndsOf v.texts + scriptEndsOf (memberTexts ms) := by
  rw [memberTexts, scriptEndsOf_cons, scriptEnds_of_plain hkey, Nat.zero_add, scriptEndsOf_append]

/-- The items of an array count apart. -/
theorem scriptEndsOf_itemTexts_map {α : Type} {part : α → Json} {shown : α → List String}
    (h : ∀ x, scriptEndsOf (part x).texts = scriptEndsOf (shown x)) (xs : List α) :
    scriptEndsOf (itemTexts (xs.map part)) = scriptEndsOf (xs.flatMap shown) := by
  induction xs with
  | nil => rfl
  | cons x xs ih =>
      rw [List.map_cons, itemTexts, List.flatMap_cons, scriptEndsOf_append, scriptEndsOf_append,
        h x, ih]

mutual

/-- A printed document ends a script as often as its texts do. -/
theorem scriptEnds_render : ∀ j : Json,
    scriptEnds (render spacedAscii j) = scriptEndsOf (texts j)
  | .null => by decide
  | .bool b => by cases b <;> decide
  | .int n => scriptEnds_of_plain (angle_notMem_toString n)
  | .real x => scriptEnds_of_plain (Decimal.angle_notMem_document x)
  | .str s => scriptEnds_quoted true s
  | .arr xs => by
      rw [render, texts, scriptEnds_between (by decide) (by decide), scriptEnds_renderItems xs]
  | .obj ms => by
      rw [render, texts, scriptEnds_between (by decide) (by decide), scriptEnds_renderMembers ms]

/-- The closing tags in rendered items are those in their texts. -/
theorem scriptEnds_renderItems : ∀ xs : List Json,
    scriptEnds (renderItems spacedAscii true xs) = scriptEndsOf (itemTexts xs)
  | [] => by rw [renderItems, itemTexts]; rfl
  | x :: xs => by
      rw [renderItems, if_pos rfl, String.empty_append, scriptEnds_append_items,
        scriptEnds_render x, scriptEnds_renderItems xs, itemTexts, scriptEndsOf_append]

/-- The closing tags in rendered members are those in their keys and texts. -/
theorem scriptEnds_renderMembers : ∀ ms : List (String × Json),
    scriptEnds (renderMembers spacedAscii true ms) = scriptEndsOf (memberTexts ms)
  | [] => by rw [renderMembers, memberTexts]; rfl
  | (k, v) :: ms => by
      have hkey : separates spacedAscii.keyGap = true := by decide
      rw [renderMembers, if_pos rfl, String.empty_append, scriptEnds_append_members,
        scriptEnds_across hkey, scriptEnds_quoted, scriptEnds_render v,
        scriptEnds_renderMembers ms, memberTexts, scriptEndsOf_cons, scriptEndsOf_append,
        Nat.add_assoc]

end

end Json
end CrossAudit
