import CrossAudit.Index
import CrossAudit.Proofs.Assoc
import Mathlib.Data.Prod.Lex
import Mathlib.Data.String.Basic

/-!
# Histories of an index

An index is asked to write and to forget.  What it holds afterwards does not depend on how the
writing went on: it is what the accepted updates since the last clearing wrote last, row by row.  A
refused update leaves no trace, at whichever row it was refused and for whatever reason.

Main results:

- Theorem `run_update`: an update writes all of its rows, or is refused as a whole.
- Theorem `after_eq`: the index after a history holds the rows in effect, written in order.
- Theorem `shows_foldl_put`: rows that are written in order leave what was written last.
- Theorem `closed_inEffect`: references keep the entities that came with them.
- Theorem `after_correct`: all views of an index after a history, in terms of the rows in effect.
-/

namespace CrossAudit
namespace Index

variable {ε : Type} (refuse : Row → Option ε)

/-! ## Calls -/

/-- What is asked of an index. -/
inductive Call where
  | update (entities : List Entity) (references : List Reference)
  | clear

/-- The index after a call, and why the call was refused.  A refused update leaves the index as it
was. -/
def Call.run (x : Index) : Call → Index × Option ε
  | .update entities references =>
    match x.updateBy refuse entities references with
    | .ok y => (y, none)
    | .error e => (x, some e)
  | .clear => (x.clear, none)

/-- The index after a history of calls. -/
def after (calls : List Call) : Index :=
  calls.foldl (fun x c => (c.run refuse x).1) {}

/-! ## Rows in effect -/

/-- Whether no row of an update is refused. -/
def accepts (rows : List Row) : Bool :=
  rows.all fun row => (refuse row).isNone

/-- The rows that a call asks to write: each of its entities, then each of its references. -/
def Call.rows : Call → List Row
  | .update entities references => entities.map .entity ++ references.map .reference
  | .clear => []

/-- The rows in effect after a call. -/
def Call.effect (rows : List Row) : Call → List Row
  | .update entities references =>
    let new := (Call.update entities references).rows
    if accepts refuse new then rows ++ new else rows
  | .clear => []

/-- The rows that the accepted updates since the last clearing wrote, in order. -/
def inEffect (calls : List Call) : List Row :=
  calls.foldl (fun rows c => c.effect refuse rows) []

/-- The entities among rows. -/
def entitiesIn (rows : List Row) : List Entity :=
  rows.filterMap fun
    | .entity e => some e
    | .reference _ => none

/-- The references among rows. -/
def referencesIn (rows : List Row) : List Reference :=
  rows.filterMap fun
    | .entity _ => none
    | .reference r => some r

/-- The entity that was written last under an id. -/
def lastEntity (rows : List Row) (id : String) : Option Entity :=
  Assoc.lastUnder Entity.id (entitiesIn rows) id

/-- The reference that was written last under a key. -/
def lastReference (rows : List Row) (key : String × String × String) : Option Reference :=
  Assoc.lastUnder Reference.key (referencesIn rows) key

/-- The rows of an update are the ones that it is asked to write. -/
theorem rowsOf_eq_rows (entities : List Entity) (references : List Reference) :
    rowsOf entities references = (Call.update entities references).rows :=
  rfl

@[simp]
theorem entitiesIn_rows (entities : List Entity) (references : List Reference) :
    entitiesIn (Call.update entities references).rows = entities := by
  simp [entitiesIn, Call.rows, List.filterMap_append, List.filterMap_map]

@[simp]
theorem referencesIn_rows (entities : List Entity) (references : List Reference) :
    referencesIn (Call.update entities references).rows = references := by
  simp [referencesIn, Call.rows, List.filterMap_append, List.filterMap_map]

@[simp]
theorem entitiesIn_append (rows rows' : List Row) :
    entitiesIn (rows ++ rows') = entitiesIn rows ++ entitiesIn rows' :=
  List.filterMap_append

@[simp]
theorem referencesIn_append (rows rows' : List Row) :
    referencesIn (rows ++ rows') = referencesIn rows ++ referencesIn rows' :=
  List.filterMap_append

/-! ## Updates -/

/-- Rows are written in order, unless one of them is refused. -/
theorem putAll_eq (x : Index) (rows : List Row) :
    (accepts refuse rows = true ∧ putAll refuse x rows = .ok (rows.foldl put x)) ∨
      (accepts refuse rows = false ∧ ∃ e, putAll refuse x rows = .error e) := by
  induction rows generalizing x with
  | nil => exact Or.inl ⟨rfl, rfl⟩
  | cons row rest ih =>
      cases hrow : refuse row with
      | some e => exact Or.inr ⟨by simp [accepts, hrow], e, by simp [putAll, hrow]⟩
      | none =>
          have haccepts : accepts refuse (row :: rest) = accepts refuse rest := by
            simp [accepts, hrow]
          rw [haccepts, putAll, hrow]
          exact ih (x.put row)

/-- An update writes all of its rows, or is refused as a whole. -/
theorem run_update (x : Index) (entities : List Entity) (references : List Reference) :
    if accepts refuse (Call.update entities references).rows then
      (Call.update entities references).run refuse x =
        ((Call.update entities references).rows.foldl put x, none)
    else ∃ e, (Call.update entities references).run refuse x = (x, some e) := by
  rcases putAll_eq refuse x (Call.update entities references).rows with
    ⟨haccepts, hput⟩ | ⟨haccepts, e, hput⟩
  · simp [haccepts, Call.run, updateBy, rowsOf_eq_rows, hput]
  · simp [haccepts, Call.run, updateBy, rowsOf_eq_rows, hput]

/-- A call changes the rows in effect and the index alike. -/
theorem run_foldl_put (rows : List Row) (c : Call) :
    (c.run refuse (rows.foldl put {})).1 = (c.effect refuse rows).foldl put {} := by
  cases c with
  | clear => rfl
  | update entities references =>
      have hrun := run_update refuse (rows.foldl put {}) entities references
      simp only [Call.effect]
      split at hrun
      · rename_i haccepts
        rw [if_pos haccepts, hrun, List.foldl_append]
      · rename_i haccepts
        rcases hrun with ⟨e, hrun⟩
        rw [if_neg haccepts, hrun]

/-- The index after a history holds the rows in effect, written in order. -/
theorem after_eq (calls : List Call) :
    after refuse calls = (inEffect refuse calls).foldl put {} := by
  induction calls using List.reverseRecOn with
  | nil => rfl
  | append_singleton calls c ih =>
      have hstep : after refuse (calls ++ [c]) = (c.run refuse (after refuse calls)).1 := by
        simp [after]
      have heffect : inEffect refuse (calls ++ [c]) = c.effect refuse (inEffect refuse calls) := by
        simp [inEffect]
      rw [hstep, heffect, ih, run_foldl_put]

/-! ## Tables -/

/-- Writing rows leaves the last entity under each name. -/
theorem entities_foldl_put (rows : List Row) (x : Index) :
    (rows.foldl put x).entities = Assoc.latest Entity.id x.entities (entitiesIn rows) := by
  induction rows generalizing x with
  | nil => rfl
  | cons row rest ih =>
      rw [List.foldl_cons, ih]
      cases row <;> rfl

/-- Writing rows leaves the last reference under each key. -/
theorem references_foldl_put (rows : List Row) (x : Index) :
    (rows.foldl put x).references =
      Assoc.latest Reference.key x.references (referencesIn rows) := by
  induction rows generalizing x with
  | nil => rfl
  | cons row rest ih =>
      rw [List.foldl_cons, ih]
      cases row <;> rfl

/-! ## Views -/

/-- The place of an entity: its file, then its first line. -/
def NotAfter (a b : Entity) : Prop :=
  a.file < b.file ∨ a.file = b.file ∧ a.startLine ≤ b.startLine

/-- An index holds exactly what was written last, and shows it in each of its views. -/
structure Shows (x : Index) (rows : List Row) : Prop where
  entities : ∀ id e, (id, e) ∈ x.entities ↔ lastEntity rows id = some e
  references : ∀ key r, (key, r) ∈ x.references ↔ lastReference rows key = some r
  counts : x.counts = (((entitiesIn rows).map Entity.id).eraseDups.length,
    ((referencesIn rows).map Reference.key).eraseDups.length)
  mem_entitiesOf : ∀ language ≠ "", ∀ e,
    e ∈ x.entitiesOf language ↔ lastEntity rows e.id = some e ∧ e.language = language
  nodup_entitiesOf : ∀ language, ((x.entitiesOf language).map Entity.id).Nodup
  sorted_entitiesOf : ∀ language, (x.entitiesOf language).Pairwise NotAfter
  mem_referencesOf : ∀ id ≠ "", ∀ r,
    r ∈ x.referencesOf id ↔ lastReference rows r.key = some r ∧ (r.sourceId = id ∨ r.targetId = id)
  nodup_referencesOf : ∀ id, ((x.referencesOf id).map Reference.key).Nodup

/-- The order of entities, as one on pairs. -/
def rank (e : Entity) : String ×ₗ Int ×ₗ String :=
  toLex (e.file, toLex (e.startLine, e.id))

/-- Entities are compared by their ranks. -/
theorem entityLe_iff (a b : Entity) : entityLe a b = true ↔ rank a ≤ rank b := by
  unfold entityLe rank
  rw [Prod.Lex.toLex_le_toLex, Prod.Lex.toLex_le_toLex]
  by_cases hfile : a.file = b.file
  · by_cases hline : a.startLine = b.startLine
    · simp [hfile, hline]
    · simp [hfile, hline, lt_iff_le_and_ne]
  · simp [hfile, lt_iff_le_and_ne]

/-- Sorted entities stand in the order of their places. -/
theorem pairwise_notAfter_mergeSort (es : List Entity) :
    (es.mergeSort entityLe).Pairwise NotAfter := by
  have htrans : ∀ a b c : Entity, entityLe a b = true → entityLe b c = true →
      entityLe a c = true := by
    intro a b c hab hbc
    rw [entityLe_iff] at hab hbc ⊢
    exact hab.trans hbc
  have htotal : ∀ a b : Entity, (entityLe a b || entityLe b a) = true := by
    intro a b
    rw [Bool.or_eq_true, entityLe_iff, entityLe_iff]
    exact le_total (rank a) (rank b)
  refine (List.pairwise_mergeSort htrans htotal es).imp fun {a b} h => ?_
  rw [entityLe_iff, rank, rank, Prod.Lex.toLex_le_toLex] at h
  refine h.imp id fun ⟨hfile, hrest⟩ => ⟨hfile, ?_⟩
  rw [Prod.Lex.toLex_le_toLex] at hrest
  rcases hrest with hlt | ⟨heq, _⟩
  · exact hlt.le
  · exact heq.le

/-- Rows that are written in order leave what was written last. -/
theorem shows_foldl_put (rows : List Row) : Shows (rows.foldl put {}) rows := by
  have hentities := entities_foldl_put rows {}
  have hreferences := references_foldl_put rows {}
  refine ⟨?_, ?_, ?_, ?_, ?_, ?_, ?_, ?_⟩
  · intro id e
    rw [hentities]
    exact Assoc.mem_latest_iff Entity.id (entitiesIn rows) id e
  · intro key r
    rw [hreferences]
    exact Assoc.mem_latest_iff Reference.key (referencesIn rows) key r
  · rw [Index.counts, hentities, hreferences, ← Assoc.length_latest, ← Assoc.length_latest]
  · intro language hlanguage e
    rw [entitiesOf, hentities]
    refine (Assoc.mem_sorted_latest_iff Entity.id _ _ (entitiesIn rows) e).trans ?_
    simp [lastEntity, hlanguage]
  · intro language
    rw [entitiesOf, hentities]
    exact Assoc.nodup_keys_sorted_latest Entity.id _ _ (entitiesIn rows)
  · exact fun language => pairwise_notAfter_mergeSort _
  · intro id hid r
    rw [referencesOf, hreferences]
    refine (Assoc.mem_sorted_latest_iff Reference.key _ _ (referencesIn rows) r).trans ?_
    simp [lastReference, hid]
  · intro id
    rw [referencesOf, hreferences]
    exact Assoc.nodup_keys_sorted_latest Reference.key _ _ (referencesIn rows)

/-! ## Dangling references -/

/-- The references of an update join entities of the same update. -/
def Call.Joined : Call → Prop
  | .update entities references => ∀ r ∈ references,
      r.sourceId ∈ entities.map Entity.id ∧ r.targetId ∈ entities.map Entity.id
  | .clear => True

/-- The references among rows join entities among them. -/
def Closed (rows : List Row) : Prop :=
  ∀ r ∈ referencesIn rows,
    r.sourceId ∈ (entitiesIn rows).map Entity.id ∧ r.targetId ∈ (entitiesIn rows).map Entity.id

/-- A call keeps references with the entities that they join. -/
theorem closed_effect {rows : List Row} {c : Call} (hc : c.Joined) (h : Closed rows) :
    Closed (c.effect refuse rows) := by
  cases c with
  | clear =>
      intro r hr
      cases hr
  | update entities references =>
      simp only [Call.effect]
      split
      · intro r hr
        rw [referencesIn_append, referencesIn_rows, List.mem_append] at hr
        rw [entitiesIn_append, entitiesIn_rows, List.map_append, List.mem_append, List.mem_append]
        rcases hr with hr | hr
        · exact ⟨Or.inl (h r hr).1, Or.inl (h r hr).2⟩
        · exact ⟨Or.inr (hc r hr).1, Or.inr (hc r hr).2⟩
      · exact h

/-- Calls that name the ends of their references leave rows that do. -/
theorem closed_inEffect {calls : List Call} (h : ∀ c ∈ calls, c.Joined) :
    Closed (inEffect refuse calls) := by
  induction calls using List.reverseRecOn with
  | nil =>
      intro r hr
      cases hr
  | append_singleton calls c ih =>
      rw [List.forall_mem_append, List.forall_mem_singleton] at h
      have heffect : inEffect refuse (calls ++ [c]) = c.effect refuse (inEffect refuse calls) := by
        simp [inEffect]
      rw [heffect]
      exact closed_effect refuse h.2 (ih h.1)

/-- Every reference of an index joins two of its entities. -/
def NoneDangling (x : Index) : Prop :=
  ∀ key r, (key, r) ∈ x.references →
    (∃ e, (r.sourceId, e) ∈ x.entities) ∧ ∃ e, (r.targetId, e) ∈ x.entities

/-- An index that shows rows with all ends has no dangling reference. -/
theorem Shows.noneDangling {x : Index} {rows : List Row} (h : Shows x rows)
    (hclosed : Closed rows) :
    NoneDangling x := by
  intro key r hr
  have hlast := (h.references key r).1 hr
  have hends := hclosed r (Assoc.mem_of_lastUnder Reference.key hlast)
  constructor
  · rcases Assoc.exists_lastUnder Entity.id hends.1 with ⟨e, he⟩
    exact ⟨e, (h.entities r.sourceId e).2 he⟩
  · rcases Assoc.exists_lastUnder Entity.id hends.2 with ⟨e, he⟩
    exact ⟨e, (h.entities r.targetId e).2 he⟩

/-! ## Histories -/

/-- After every history, an index shows what the accepted updates since the last clearing wrote
last.  A further update is accepted if none of its rows is refused, and leaves the index as it was
otherwise.  Where references come with the entities that they join, no reference dangles. -/
theorem after_correct (calls : List Call) :
    Shows (after refuse calls) (inEffect refuse calls) ∧
      (∀ entities references,
        ((Call.update entities references).run refuse (after refuse calls)).2 = none ↔
          (∀ e ∈ entities, refuse (.entity e) = none) ∧
            ∀ r ∈ references, refuse (.reference r) = none) ∧
      (∀ entities references,
        ((Call.update entities references).run refuse (after refuse calls)).2 ≠ none →
          ((Call.update entities references).run refuse (after refuse calls)).1 =
            after refuse calls) ∧
      ((∀ c ∈ calls, c.Joined) → NoneDangling (after refuse calls)) := by
  have hshows : Shows (after refuse calls) (inEffect refuse calls) := by
    rw [after_eq]
    exact shows_foldl_put (inEffect refuse calls)
  refine ⟨hshows, ?_, ?_, fun hjoined => hshows.noneDangling (closed_inEffect refuse hjoined)⟩
  · intro entities references
    have hrun := run_update refuse (after refuse calls) entities references
    have haccepts : accepts refuse (Call.update entities references).rows = true ↔
        (∀ e ∈ entities, refuse (.entity e) = none) ∧
          ∀ r ∈ references, refuse (.reference r) = none := by
      simp [accepts, Call.rows, Option.isNone_iff_eq_none]
    rw [← haccepts]
    split at hrun
    · rename_i h
      simp [hrun, h]
    · rename_i h
      rcases hrun with ⟨e, hrun⟩
      simp [hrun, h]
  · intro entities references hrefused
    have hrun := run_update refuse (after refuse calls) entities references
    split at hrun
    · rw [hrun] at hrefused
      exact absurd rfl hrefused
    · rcases hrun with ⟨e, hrun⟩
      rw [hrun]

/-- A function of a project. -/
def function (name : String) (first : Int) : Entity :=
  { id := name, name := name, language := "go", file := "main.go", type := "function"
    startLine := first, endLine := first }

/-- A call of one function by another. -/
def callOf (source target : String) (protocol : String) : Reference :=
  { sourceId := source, targetId := target, type := "call", sourceLanguage := "go"
    targetLanguage := "go", confidence := .zero, protocol := some protocol }

/-- A function is written and forgotten; two functions and a call are written, the first function
and the call twice; and an update is refused, as a line of its second function does not fit. -/
def busyHistory : List Call :=
  [.update [function "old" 1] [], .clear,
    .update [function "f" 1, function "g" 2, function "f" 3]
      [callOf "f" "g" "first", callOf "f" "g" "second"],
    .update [function "g" 7, function "h" (2 ^ 63)] []]

/-- A history with a repeated key, a clearing and an update that is refused: what was written last
is shown, what was cleared is gone, and the refused update changes nothing. -/
theorem after_correct_busyHistory :
    (∀ c ∈ busyHistory, c.Joined) ∧ NoneDangling (after refusal busyHistory) ∧
    (after refusal busyHistory).counts = (2, 1) ∧
    ("f", function "f" 3) ∈ (after refusal busyHistory).entities ∧
    (∀ e, ("old", e) ∉ (after refusal busyHistory).entities) ∧
    function "g" 2 ∈ (after refusal busyHistory).entitiesOf "go" ∧
    callOf "f" "g" "second" ∈ (after refusal busyHistory).referencesOf "g" ∧
    ((Call.update [function "h" (2 ^ 63)] []).run refusal (after refusal busyHistory)).1 =
      after refusal busyHistory := by
  obtain ⟨hshows, haccepted, hkept, hdangling⟩ := after_correct refusal busyHistory
  have hjoined : ∀ c ∈ busyHistory, c.Joined := by
    simp [busyHistory, Call.Joined, function, callOf]
  refine ⟨hjoined, hdangling hjoined, ?_, ?_, ?_, ?_, ?_, hkept _ _ ?_⟩
  · rw [hshows.counts]
    decide +kernel
  · rw [hshows.entities]
    rfl
  · intro e
    rw [hshows.entities]
    rintro ⟨⟩
  · rw [hshows.mem_entitiesOf "go" (by decide)]
    exact ⟨rfl, rfl⟩
  · rw [hshows.mem_referencesOf "g" (by decide)]
    exact ⟨rfl, .inr rfl⟩
  · rw [Ne, haccepted]
    decide +kernel

end Index
end CrossAudit
