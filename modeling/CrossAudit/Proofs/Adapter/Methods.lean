import CrossAudit.Adapter.Basic
import CrossAudit.Proofs.Syntax.Ancestors

/-!
# Two ways up from a method

Whether a method definition of a TypeScript or JavaScript file belongs to a class is decided twice.
Both times the way up from it is searched for the nearest class.  The predicate gives up at a
function of any kind, the record of the method only at a function statement.  So a method of an
object literal in the body of a class's method belongs to no class by the one and to that class by
the other, unless there is a function statement between them.

Main results:

- Theorem `reaches?_eq_some_iff`: what a search upward finds.
- Theorems `Vocabulary.isMethod_iff`, `isMethod_methodOf_iff`: the two answers.
- Theorem `flags_agree_iff`: when they agree.
-/

namespace CrossAudit
namespace Adapter

open Syntax

/-! ## Searching upward -/

/-- The nearest target above a place, unless something that stops the search comes first. -/
def reaches? (target stop : Cursor → Bool) (c : Cursor) : Option Cursor :=
  (c.ancestors.find? fun a => target a || stop a).filter target

/-- A place lies within a target, with nothing but these places between them, of which none is a
target. -/
structure Within (target : Cursor → Bool) (c k : Cursor) (between : List Cursor) : Prop where
  /-- The places between stand first on the way up, then the target. -/
  above : ∃ outer, c.ancestors = between ++ k :: outer
  /-- The way up has arrived at a target. -/
  arrived : target k = true
  /-- It has passed no target before. -/
  nearest : ∀ b ∈ between, target b = false

variable {target stop : Cursor → Bool} {c k : Cursor} {between : List Cursor}

/-- Between a node and the class around it are the ancestors up to that class. -/
theorem Within.between_eq (h : Within target c k between) :
    between = c.ancestors.takeWhile fun b => !target b := by
  obtain ⟨outer, habove⟩ := h.above
  have hpassed : ∀ b ∈ between, (!target b) = true := fun b hb => by rw [h.nearest b hb]; rfl
  rw [habove, List.takeWhile_append_of_pos hpassed, List.takeWhile_cons_of_neg, List.append_nil]
  rw [h.arrived]
  exact Bool.false_ne_true

/-- The nearest target and what is between are unique. -/
theorem Within.unique {k' : Cursor} {between' : List Cursor} (h : Within target c k between)
    (h' : Within target c k' between') : k = k' ∧ between = between' := by
  have hbetween : between = between' := h.between_eq.trans h'.between_eq.symm
  obtain ⟨outer, habove⟩ := h.above
  obtain ⟨outer', habove'⟩ := h'.above
  rw [habove, hbetween] at habove'
  exact ⟨(List.cons.inj (List.append_cancel_left habove')).1, hbetween⟩

/-- A search upward finds the nearest target if nothing between stops it. -/
theorem reaches?_eq_some_iff :
    reaches? target stop c = some k ↔
      ∃ between, Within target c k between ∧ ∀ b ∈ between, stop b = false := by
  rw [reaches?, Option.filter_eq_some_iff, List.find?_eq_some_iff_append]
  constructor
  · rintro ⟨⟨-, between, outer, habove, hpassed⟩, htarget⟩
    have hneither : ∀ b ∈ between, target b = false ∧ stop b = false := fun b hb => by
      simpa using hpassed b hb
    exact ⟨between, ⟨⟨outer, habove⟩, htarget, fun b hb => (hneither b hb).1⟩,
      fun b hb => (hneither b hb).2⟩
  · rintro ⟨between, hwithin, hstop⟩
    obtain ⟨outer, habove⟩ := hwithin.above
    refine ⟨⟨by rw [hwithin.arrived]; rfl, between, outer, habove, fun b hb => ?_⟩, hwithin.arrived⟩
    rw [hwithin.nearest b hb, hstop b hb]
    rfl

/-- The climb arrives exactly if nothing on the way stops it. -/
theorem isSome_reaches?_iff :
    (reaches? target stop c).isSome = true ↔
      ∃ k between, Within target c k between ∧ ∀ b ∈ between, stop b = false := by
  simp only [Option.isSome_iff_exists, reaches?_eq_some_iff]

/-! ## The predicate -/

namespace Vocabulary

variable (v : Vocabulary)

/-- Whether a place is a class. -/
def isClassAt (c : Cursor) : Bool :=
  v.classes.contains c.kind

/-- Whether a place is a function of any kind. -/
def isFunctionAt (c : Cursor) : Bool :=
  v.functions.contains c.kind

/-- A function is a method if there is no other function between it and the nearest class. -/
theorem isMethod_iff (hfunction : v.isFunctionAt c = true) :
    v.isMethod c = true ↔
      ∃ k between, Within v.isClassAt c k between ∧ ∀ b ∈ between, v.isFunctionAt b = false := by
  have hsearch : v.isMethod c = (reaches? v.isClassAt v.isFunctionAt c).isSome := by
    have hscope : (fun a : Cursor => v.opensScope a.node) =
        fun a => v.isClassAt a || v.isFunctionAt a := funext fun a => Bool.or_comm _ _
    rw [isMethod, reaches?, ← hscope, Option.isSome_filter]
    rw [isFunctionAt] at hfunction
    rw [hfunction, Bool.true_and]
    cases c.ancestors.find? fun a => v.opensScope a.node <;> rfl
  rw [hsearch, isSome_reaches?_iff]

end Vocabulary

/-! ## The record -/

namespace EcmaScript

/-- Whether a place is a function statement. -/
def isStatementAt (c : Cursor) : Bool :=
  declaredFunctions.contains c.kind

variable {d : Document}

/-- The enclosing class is sought past everything but function statements. -/
theorem enclosingClass?_eq (c : Cursor) :
    enclosingClass? c = reaches? vocabulary.isClassAt isStatementAt c :=
  rfl

/-- A function statement is a function. -/
theorem isFunctionAt_of_isStatementAt (h : isStatementAt c = true) :
    vocabulary.isFunctionAt c = true := by
  have hkinds : declaredFunctions ⊆ vocabulary.functions := by decide
  rw [isStatementAt, List.contains_iff_mem] at h
  rw [Vocabulary.isFunctionAt, List.contains_iff_mem]
  exact hkinds h

/-- The record of a method definition. -/
def methodOf (d : Document) (c : Cursor) : FunctionDecl :=
  function d c (d.roleText c "name") c c

/-- A method definition is recorded as a method. -/
theorem function?_of_method (hkind : c.kind = "method_definition") :
    function? d c = some (methodOf d c) := by
  rw [function?, hkind]
  rfl

/-- The record of a method definition says it is a method if there is an enclosing class. -/
theorem isMethod_methodOf (hkind : c.kind = "method_definition") :
    (methodOf d c).isMethod = (enclosingClass? c).isSome := by
  rw [methodOf, function, hkind]
  rfl

/-- The record of a method definition names the enclosing class. -/
theorem className_methodOf (hkind : c.kind = "method_definition") :
    (methodOf d c).className = (enclosingClass? c).bind fun k => d.roleText? k "name" := by
  rw [methodOf, function, hkind]
  rfl

/-- A method definition is recorded as a method if no function statement stands between it and its
class. -/
theorem isMethod_methodOf_iff (hkind : c.kind = "method_definition") :
    (methodOf d c).isMethod = true ↔ ∃ k between,
      Within vocabulary.isClassAt c k between ∧ ∀ b ∈ between, isStatementAt b = false := by
  rw [isMethod_methodOf hkind, enclosingClass?_eq, isSome_reaches?_iff]

/-- A method that the record gives to a class is given to the nearest one around it. -/
theorem className_methodOf_of_within {k : Cursor} {between : List Cursor}
    (hkind : c.kind = "method_definition") (h : Within vocabulary.isClassAt c k between)
    (hflag : (methodOf d c).isMethod = true) :
    (methodOf d c).className = d.roleText? k "name" := by
  rw [isMethod_methodOf hkind, enclosingClass?_eq, Option.isSome_iff_exists] at hflag
  obtain ⟨k', hfound⟩ := hflag
  obtain ⟨between', hwithin, -⟩ := reaches?_eq_some_iff.1 hfound
  rw [className_methodOf hkind, enclosingClass?_eq, hfound, (hwithin.unique h).1]
  rfl

/-! ## Agreement -/

/-- A method definition is a function. -/
theorem isFunctionAt_of_method (hkind : c.kind = "method_definition") :
    vocabulary.isFunctionAt c = true := by
  rw [Vocabulary.isFunctionAt, hkind]
  rfl

/-- What the predicate calls a method is one by its record, since a function statement is a
function. -/
theorem isMethod_methodOf_of_isMethod (hkind : c.kind = "method_definition")
    (h : vocabulary.isMethod c = true) : (methodOf d c).isMethod = true := by
  rw [isMethod_methodOf_iff hkind]
  obtain ⟨k, between, hwithin, hclear⟩ :=
    (vocabulary.isMethod_iff (isFunctionAt_of_method hkind)).1 h
  refine ⟨k, between, hwithin, fun b hb => Bool.eq_false_iff.2 fun hstatement => ?_⟩
  have hfunctionAt := isFunctionAt_of_isStatementAt hstatement
  rw [hclear b hb] at hfunctionAt
  exact Bool.false_ne_true hfunctionAt

/-- Outside of Python a node plays a method if the vocabulary says so. -/
theorem plays_isMethod {a : Adapter} (ha : a ≠ python) (d : Document) (c : Cursor) :
    a.plays d c .isMethod = vocabulary.isMethod c := by
  cases a with
  | python => exact absurd rfl ha
  | typescript => rfl
  | javascript => rfl

/-- Outside of Python the functions are the records of the nodes that have one. -/
theorem functions_eq {a : Adapter} (ha : a ≠ python) (d : Document) :
    a.functions d = d.walk.filterMap (function? d) := by
  cases a with
  | python => exact absurd rfl ha
  | typescript => rfl
  | javascript => rfl

/-- The predicate asks for no function at all between a method definition and the nearest class, the
record of the method for no function statement, and then the method is that class's.  The two agree
unless a function lies between and no function statement does. -/
theorem flags_agree_iff {a : Adapter} (ha : a ≠ python) {d : Document} {c : Cursor}
    (hc : c ∈ d.walk) (hkind : c.kind = "method_definition") :
    ∃ f ∈ a.functions d, function? d c = some f ∧
      (a.plays d c .isMethod = true ↔ ∃ k between,
        Within vocabulary.isClassAt c k between ∧
          ∀ b ∈ between, vocabulary.isFunctionAt b = false) ∧
      (f.isMethod = true ↔ ∃ k between,
        Within vocabulary.isClassAt c k between ∧ ∀ b ∈ between, isStatementAt b = false) ∧
      (∀ k between, Within vocabulary.isClassAt c k between → f.isMethod = true →
        f.className = d.roleText? k "name") ∧
      (f.isMethod = a.plays d c .isMethod ↔ ∀ k between,
        Within vocabulary.isClassAt c k between →
          (∃ b ∈ between, vocabulary.isFunctionAt b = true) →
            ∃ b ∈ between, isStatementAt b = true) := by
  have hrecord : function? d c = some (methodOf d c) := function?_of_method hkind
  have hpredicate := vocabulary.isMethod_iff (isFunctionAt_of_method hkind)
  have hflag := isMethod_methodOf_iff (d := d) hkind
  rw [functions_eq ha, plays_isMethod ha]
  refine ⟨methodOf d c, List.mem_filterMap.2 ⟨c, hc, hrecord⟩, hrecord, hpredicate, hflag,
    fun k between h => className_methodOf_of_within hkind h, ?_⟩
  constructor
  · intro hagree k between hwithin hinner
    by_contra hnone
    push Not at hnone
    have hmethod : vocabulary.isMethod c = true := by
      rw [← hagree]
      exact hflag.2 ⟨k, between, hwithin, fun b hb => Bool.eq_false_iff.2 (hnone b hb)⟩
    obtain ⟨k', between', hwithin', hclear⟩ := hpredicate.1 hmethod
    obtain ⟨b, hb, hbfunction⟩ := hinner
    rw [(hwithin.unique hwithin').2] at hb
    rw [hclear b hb] at hbfunction
    exact Bool.false_ne_true hbfunction
  · intro hhidden
    refine Bool.eq_iff_iff.2 ⟨fun hmethod => ?_, isMethod_methodOf_of_isMethod hkind⟩
    obtain ⟨k, between, hwithin, hclear⟩ := hflag.1 hmethod
    refine hpredicate.2 ⟨k, between, hwithin, fun b hb => Bool.eq_false_iff.2 fun hinner => ?_⟩
    obtain ⟨b', hb', hstatement⟩ := hhidden k between hwithin ⟨b, hb, hinner⟩
    rw [hclear b' hb'] at hstatement
    exact Bool.false_ne_true hstatement

/-- A class `A` whose method gives back an object literal with a method `n` of its own. -/
def literalInMethod : Document :=
  let node (kind : String) (first last : Nat) (role : Option String) (kids : List Node) : Node :=
    .mk { kind := kind, first := first, last := last, role := role
          location := ⟨⟨1, first + 1⟩, ⟨1, last + 1⟩⟩ } kids
  { language := "javascript", path := "a.js", diagnostics := []
    source := "class A { m() { return { n() {} }; } }".toUTF8
    root := node "program" 0 38 none [node "class_declaration" 0 38 none
      [node "identifier" 6 7 (some "name") [],
       node "class_body" 8 38 (some "body") [node "method_definition" 10 36 none
        [node "property_identifier" 10 11 (some "name") [],
         node "statement_block" 14 36 (some "body") [node "return_statement" 16 34 none
          [node "object" 23 33 none [node "method_definition" 25 31 none
            [node "property_identifier" 25 26 (some "name") []]]]]]]]] }

/-- A method in an object literal that stands in a method of a class: the two flags disagree. -/
theorem flags_agree_iff_literalInMethod : ∃ c ∈ literalInMethod.walk,
    c.kind = "method_definition" ∧ ∃ f ∈ javascript.functions literalInMethod,
      function? literalInMethod c = some f ∧ f.name = "n" ∧
        ¬ ∀ k between, Within vocabulary.isClassAt c k between →
          (∃ b ∈ between, vocabulary.isFunctionAt b = true) →
            ∃ b ∈ between, isStatementAt b = true := by
  have hmethod : ∃ c ∈ literalInMethod.walk, c.kind = "method_definition" ∧
      (methodOf literalInMethod c).name = "n" ∧
        (methodOf literalInMethod c).isMethod ≠ javascript.plays literalInMethod c .isMethod := by
    decide +kernel
  obtain ⟨c, hc, hkind, hname, hdiffer⟩ := hmethod
  obtain ⟨f, hf, hrecord, -, -, -, hagree⟩ :=
    flags_agree_iff (a := javascript) (by decide) hc hkind
  obtain rfl : f = methodOf literalInMethod c :=
    Option.some.inj (hrecord.symm.trans (function?_of_method hkind))
  exact ⟨c, hc, hkind, _, hf, hrecord, hname, fun hhidden => hdiffer (hagree.2 hhidden)⟩

/-- The record of the literal's method gives it to the class `A`, whose method it is not. -/
theorem flags_differ_literalInMethod : ∃ c ∈ literalInMethod.walk,
    c.kind = "method_definition" ∧ javascript.plays literalInMethod c .isMethod = false ∧
      ∃ f ∈ javascript.functions literalInMethod, function? literalInMethod c = some f ∧
        f.name = "n" ∧ f.isMethod = true ∧ f.className = some "A" := by
  decide +kernel

end EcmaScript
end Adapter
end CrossAudit
