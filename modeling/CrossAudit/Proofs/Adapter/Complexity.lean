import CrossAudit.Adapter.Basic
import CrossAudit.Proofs.Assoc
import CrossAudit.Proofs.Syntax.Ancestors

/-!
# Every decision point is counted once

The complexity of a node counts the decision points of its own scope, which ends where a nested
function or class begins.  Heads are the root of a document and its functions and classes.  The
own scopes of the heads do not overlap, and together they hold every node that is neither the root
nor opens a scope: such a node lies in the scope of the nearest head above it, and in no other.
Since no kind of an adapter is both a decision and a scope, no decision point is lost.

Main results:

- Theorem `Vocabulary.mem_ownScope_iff`: what lies in the scope of a head.
- Theorem `Vocabulary.perm_flatMap_counted`: the heads share out the decision points.
- Theorem `decisions_counted_once`: the complexities of the heads count each of them once.
-/

namespace CrossAudit

open Syntax

namespace Syntax.Cursor

/-- Whether a place is the root of its tree. -/
def isRoot (c : Cursor) : Bool :=
  c.above.isEmpty

end Syntax.Cursor

namespace Adapter
namespace Vocabulary

variable (v : Vocabulary)

/-! ## Heads -/

/-- Whether the complexity of a place is told on its own: it is the root, or a function or class. -/
def isHead (c : Cursor) : Bool :=
  c.isRoot || v.opensScope c.node

/-- The nearest head above a place. -/
def nearest? (c : Cursor) : Option Cursor :=
  c.ancestors.find? v.isHead

/-- The heads of a document, in pre-order. -/
def heads (d : Document) : List Cursor :=
  d.walk.filter v.isHead

/-- The decision points of a document other than its root, in pre-order. -/
def decisions (d : Document) : List Cursor :=
  d.walk.filter fun c => !c.isRoot && v.isDecision c.node

/-- The decision points that the complexity of a place counts. -/
def counted (c : Cursor) : List Cursor :=
  (v.ownScope c).filter fun d => v.isDecision d.node

/-- Complexity is one more than the decisions that are counted. -/
theorem complexity_eq (c : Cursor) : v.complexity c = 1 + (v.counted c).length :=
  rfl

variable {v} {d : Document} {b c h : Cursor}

/-- The nearest head of a child is its parent, or the nearest head of that. -/
theorem nearest?_child (hc : c ∈ b.children) :
    v.nearest? c = if v.isHead b then some b else v.nearest? b := by
  rw [nearest?, Cursor.ancestors_of_mem_children hc, List.find?_cons]
  cases v.isHead b <;> rfl

/-- What has a nearest head is not the root. -/
theorem isRoot_of_nearest? (hc : v.nearest? c = some h) : c.isRoot = false := by
  rcases c with ⟨n, _ | ⟨step, above⟩⟩
  · cases hc
  · rfl

/-- A node is no head exactly if it is not the root and opens no scope. -/
theorem isHead_eq_false_iff :
    v.isHead c = false ↔ c.isRoot = false ∧ v.opensScope c.node = false := by
  rw [isHead, Bool.or_eq_false_iff]

/-- A place of the outline below the root has a nearest head. -/
theorem exists_nearest? (hc : c ∈ d.walk) (hroot : c.isRoot = false) :
    ∃ h ∈ v.heads d, v.nearest? c = some h := by
  rw [Document.mem_walk_iff] at hc
  induction hc with
  | refl => cases hroot
  | @tail b c hb hlead ih =>
      rw [nearest?_child hlead.1]
      by_cases hhead : v.isHead b = true
      · refine ⟨b, List.mem_filter.2 ⟨Document.mem_walk_iff.2 hb, hhead⟩, if_pos hhead⟩
      · rw [if_neg hhead]
        rw [Bool.not_eq_true, isHead_eq_false_iff] at hhead
        exact ih hhead.1

/-! ## Scopes -/

/-- Whether a child belongs to the scope of its parent. -/
def continues (v : Vocabulary) (n : Node) : Bool :=
  n.isKept && !v.opensScope n

/-- A scope continues in the kept children that open no scope of their own. -/
theorem leads_continues_iff :
    b.Leads v.continues c ↔
      c ∈ b.children ∧ c.node.isKept = true ∧ v.opensScope c.node = false := by
  rw [Cursor.Leads, continues, Bool.and_eq_true, Bool.not_eq_true']

/-- The scope of a head is what it leads to without entering another one. -/
theorem mem_ownScope_iff_transGen :
    c ∈ v.ownScope h ↔ Relation.TransGen (Cursor.Leads v.continues) h c := by
  have hscope : v.ownScope h = (h.along v.continues).tail := rfl
  rw [hscope, Cursor.along_eq, List.tail_cons, List.mem_flatMap, Relation.TransGen.head'_iff]
  simp only [List.mem_filter, Cursor.mem_along_iff, Cursor.Leads]

/-- The scope of a head holds the places for which it is the nearest head, except those that open
a scope of their own. -/
theorem mem_ownScope_iff (hh : h ∈ v.heads d) :
    c ∈ v.ownScope h ↔
      c ∈ d.walk ∧ v.opensScope c.node = false ∧ v.nearest? c = some h := by
  obtain ⟨hwalk, hhead⟩ := List.mem_filter.1 hh
  rw [Document.mem_walk_iff] at hwalk ⊢
  rw [mem_ownScope_iff_transGen]
  constructor
  · intro hreach
    -- On the way down from the head no place is a head, so the nearest head does not change.
    induction hreach with
    | single hlead =>
        obtain ⟨hchild, hkept, hscope⟩ := leads_continues_iff.1 hlead
        exact ⟨hwalk.tail ⟨hchild, hkept⟩, hscope, by rw [nearest?_child hchild, if_pos hhead]⟩
    | @tail b c _ hlead ih =>
        obtain ⟨hchild, hkept, hscope⟩ := leads_continues_iff.1 hlead
        obtain ⟨hb, hbscope, hnearest⟩ := ih
        have hinner : v.isHead b = false :=
          isHead_eq_false_iff.2 ⟨isRoot_of_nearest? hnearest, hbscope⟩
        exact ⟨hb.tail ⟨hchild, hkept⟩, hscope, by simpa [nearest?_child hchild, hinner]⟩
  · rintro ⟨hreach, hscope, hnearest⟩
    -- The place above either is the nearest head or has the same one and lies in its scope.
    induction hreach with
    | refl => cases hnearest
    | @tail b c hb hlead ih =>
        have hstep : b.Leads v.continues c := leads_continues_iff.2 ⟨hlead.1, hlead.2, hscope⟩
        rw [nearest?_child hlead.1] at hnearest
        split at hnearest
        · cases hnearest
          exact .single hstep
        · next hinner =>
            rw [Bool.not_eq_true, isHead_eq_false_iff] at hinner
            exact (ih hinner.2 hnearest).tail hstep

/-! ## Sharing out the decision points -/

/-- No node is both a decision point and the start of a scope. -/
def Separates (v : Vocabulary) : Prop :=
  ∀ n, v.isDecision n = true → v.opensScope n = false

/-- A vocabulary separates scopes from decisions if no kind of node is both. -/
theorem separates_of_disjoint
    (hkinds : ∀ kind ∈ v.functions ++ v.classes,
      kind ∉ v.conditionals ++ v.loops ++ v.catches ++ v.booleans) : v.Separates := by
  intro n hdecision
  by_contra hscope
  refine hkinds n.kind ?_ ?_
  · rw [Bool.not_eq_false, opensScope, Bool.or_eq_true, List.contains_iff_mem,
      List.contains_iff_mem] at hscope
    exact List.mem_append.2 hscope
  · simp only [isDecision, isBooleanBranch, Bool.or_eq_true, Bool.and_eq_true,
      List.contains_iff_mem] at hdecision
    simp only [List.mem_append]
    exact hdecision.imp_right And.left

/-- The decisions that a head counts are those whose nearest head it is. -/
theorem mem_counted_iff (hv : v.Separates) (hh : h ∈ v.heads d) :
    c ∈ v.counted h ↔ c ∈ v.decisions d ∧ v.nearest? c = some h := by
  rw [counted, decisions, List.mem_filter, List.mem_filter, mem_ownScope_iff hh]
  constructor
  · rintro ⟨⟨hwalk, -, hnearest⟩, hdecision⟩
    exact ⟨⟨hwalk, by rw [isRoot_of_nearest? hnearest, hdecision]; rfl⟩, hnearest⟩
  · rintro ⟨⟨hwalk, hdecision⟩, hnearest⟩
    rw [Bool.and_eq_true] at hdecision
    exact ⟨⟨hwalk, hv c.node hdecision.2, hnearest⟩, hdecision.2⟩

/-- No decision is counted twice by one head. -/
theorem nodup_counted (v : Vocabulary) (c : Cursor) : (v.counted c).Nodup :=
  (Cursor.nodup_along v.continues c).tail.filter _

/-- Every decision has a nearest head. -/
theorem exists_nearest?_of_mem_decisions (hc : c ∈ v.decisions d) :
    ∃ h ∈ v.heads d, v.nearest? c = some h := by
  obtain ⟨hwalk, hdecision⟩ := List.mem_filter.1 hc
  rw [Bool.and_eq_true, Bool.not_eq_true'] at hdecision
  exact exists_nearest? hwalk hdecision.1

/-- What the heads count are the decision points, each of them once. -/
theorem perm_flatMap_counted (hv : v.Separates) (d : Document) :
    ((v.heads d).flatMap v.counted).Perm (v.decisions d) := by
  apply Assoc.perm_flatMap_of_owner v.nearest? (d.nodup_walk.filter _) (d.nodup_walk.filter _)
  · exact fun h _ => v.nodup_counted h
  · exact fun h hh c => mem_counted_iff hv hh
  · exact fun c hc => exists_nearest?_of_mem_decisions hc

/-- All heads together count every decision of a document once. -/
theorem total_complexity (hv : v.Separates) (d : Document) :
    total ((v.heads d).map fun h => v.complexity h - 1) = (v.decisions d).length := by
  rw [← (perm_flatMap_counted hv d).length_eq, ← total_map_length]
  simp only [complexity_eq, Nat.add_sub_cancel_left]

end Vocabulary

/-! ## The adapters -/

/-- The vocabulary of each adapter separates scopes from decisions. -/
theorem separates_vocabulary (a : Adapter) : a.vocabulary.Separates := by
  refine Vocabulary.separates_of_disjoint ?_
  cases a <;> decide

/-- No decision point is lost or counted twice.  The complexities of the heads, less one each, add
up to the number of decision points; a head counts the decision points for which it is the nearest
head; and each decision point is counted for exactly one head. -/
theorem decisions_counted_once (a : Adapter) (d : Document) :
    total ((a.vocabulary.heads d).map fun h => a.complexity h - 1) =
        (a.vocabulary.decisions d).length ∧
      (∀ h ∈ a.vocabulary.heads d,
        a.complexity h = 1 + (a.vocabulary.counted h).length ∧ (a.vocabulary.counted h).Nodup ∧
          ∀ c, c ∈ a.vocabulary.counted h ↔
            c ∈ a.vocabulary.decisions d ∧ a.vocabulary.nearest? c = some h) ∧
      ∀ c ∈ a.vocabulary.decisions d,
        ∃! h, h ∈ a.vocabulary.heads d ∧ c ∈ a.vocabulary.counted h := by
  have hv := a.separates_vocabulary
  refine ⟨Vocabulary.total_complexity hv d, fun h hh => ?_, fun c hc => ?_⟩
  · exact ⟨rfl, Vocabulary.nodup_counted _ h, fun c => Vocabulary.mem_counted_iff hv hh⟩
  · obtain ⟨h, hh, hnearest⟩ := Vocabulary.exists_nearest?_of_mem_decisions hc
    refine ⟨h, ⟨hh, (Vocabulary.mem_counted_iff hv hh).2 ⟨hc, hnearest⟩⟩, ?_⟩
    rintro g ⟨hg, hcounted⟩
    have hother := ((Vocabulary.mem_counted_iff hv hg).1 hcounted).2
    exact Option.some.inj (hother.symm.trans hnearest)

/-- A file with a condition that holds a function of its own, and a function with a loop. -/
def nestedScopes : Document :=
  let location : Location := ⟨⟨1, 1⟩, ⟨1, 1⟩⟩
  let node (kind : String) (kids : List Node) : Node :=
    .mk { kind := kind, first := 0, last := 0, location := location } kids
  { language := "python", path := "nested.py", source := ⟨#[]⟩, diagnostics := []
    root := node "module"
      [node "if_statement" [node "lambda" [node "boolean_operator" []], node "if_clause" []],
       node "function_definition" [node "while_statement" []]] }

/-- A lambda under a condition, and a function: three heads, and four decisions among them. -/
theorem decisions_counted_once_nested :
    (python.vocabulary.heads nestedScopes).map python.complexity = [3, 2, 2] ∧
      total ((python.vocabulary.heads nestedScopes).map fun h => python.complexity h - 1) = 4 ∧
      (python.vocabulary.decisions nestedScopes).length = 4 := by
  have hfour : (python.vocabulary.decisions nestedScopes).length = 4 := by decide +kernel
  refine ⟨by decide +kernel, ?_, hfour⟩
  rw [(decisions_counted_once python nestedScopes).1, hfour]

end Adapter
end CrossAudit
