import CrossAudit.Proofs.Syntax.Conversion
import CrossAudit.Snapshot
import Mathlib.Data.List.Induction
import Mathlib.Tactic.Common

/-!
# Where the nodes of a document stand

Lines and columns count from one, so neither is ever zero: the line by the line feeds before a byte
offset, the column by the bytes since the last of them.  Nothing about a tree as such says this; it
holds since the places of nodes are computed from byte offsets, and a scan of a tree only meets
nodes of the tree.

Main results:

- Theorem `Node.All.of_mem_scan`: what holds of all nodes of a tree holds of those that a scan
  meets.
- Theorem `all_ofRows`: what holds of all rows of a listing holds of all nodes of its tree.
- Theorem `located_treeOf`: the nodes of a listed tree have the locations of their byte ranges.
- Theorem `fromOne_parse`: the places in a parsed document count from one.
-/

namespace CrossAudit

/-! ## All nodes of a tree -/

namespace Syntax

/-- Something holds of a node and of all nodes below it. -/
inductive Node.All (P : NodeInfo → Prop) : Node → Prop where
  | mk {info : NodeInfo} {kids : List Node} (here : P info) (below : ∀ n ∈ kids, Node.All P n) :
      Node.All P (.mk info kids)

section Scan

variable {P : NodeInfo → Prop} {select enter : Node → Bool} {backward : Bool}

mutual

/-- What holds of all nodes of a tree holds of those that a scan meets. -/
theorem Node.All.of_mem_scan {above : List (Node × Nat)} {c : Cursor} :
    ∀ {n : Node}, n.All P → c ∈ n.scan select enter backward above → P c.node.info
  | .mk info kids, hall, hc => by
      cases hall with | mk here below => ?_
      rw [Node.scan] at hc
      rcases List.mem_cons.1 hc with rfl | hc
      · exact here
      · split at hc
        · exact of_mem_scanChildren below hc
        · cases hc

/-- What holds of all nodes of some trees holds of what a scan of them meets. -/
theorem of_mem_scanChildren {parent : Node} {above : List (Node × Nat)} {place : Nat}
    {c : Cursor} :
    ∀ {kids : List Node}, (∀ n ∈ kids, n.All P) →
      c ∈ scanChildren select enter backward parent above place kids → P c.node.info
  | [], _, hc => by
      rw [scanChildren] at hc
      cases hc
  | child :: rest, hall, hc => by
      have hparts : c ∈ (if select child then
            Node.scan select enter backward ((parent, place) :: above) child else []) ∨
          c ∈ scanChildren select enter backward parent above (place + 1) rest := by
        rw [scanChildren] at hc
        split at hc
        · exact (List.mem_append.1 hc).symm
        · exact List.mem_append.1 hc
      rcases hparts with hhere | hrest
      · split at hhere
        · exact (hall child List.mem_cons_self).of_mem_scan hhere
        · cases hhere
      · exact of_mem_scanChildren (fun n hn => hall n (List.mem_cons_of_mem child hn)) hrest

end

end Scan

/-! ## Trees from rows -/

section Rows

variable {P : NodeInfo → Prop}

/-- Something holds of all nodes that are closed so far. -/
structure AllClosed (P : NodeInfo → Prop) (state : Array (List Node) × Option Node) : Prop where
  waiting : ∀ index, ∀ n ∈ state.1.getD index [], n.All P
  last : ∀ n ∈ state.2, n.All P

/-- Closing one more node keeps the property, if that node has it. -/
theorem AllClosed.closeRow {state : Array (List Node) × Option Node} {entry : Row × Nat}
    (h : AllClosed P state) (hrow : P entry.1.info) : AllClosed P (closeRow entry state) := by
  rcases entry with ⟨row, index⟩
  have hnode : (Node.mk row.info (state.1.getD index [])).All P := .mk hrow (h.waiting index)
  simp only [Syntax.closeRow]
  cases hparent : row.parent with
  | none => exact ⟨h.waiting, by simpa using hnode⟩
  | some p =>
      refine ⟨fun i n hn => ?_, by simpa using hnode⟩
      have hcases : n = Node.mk row.info (state.1.getD index []) ∨ n ∈ state.1.getD i [] := by
        simp only [Array.getD_eq_getD_getElem?, Array.getElem?_modify] at hn ⊢
        split at hn
        · cases hfound : state.1[i]? <;> simp_all
        · exact Or.inr hn
      rcases hcases with rfl | hn
      · exact hnode
      · exact h.waiting i n hn

/-- What holds of all rows of a listing holds of all nodes of its tree. -/
theorem all_ofRows {rows : List Row} {n : Node} (h : ∀ r ∈ rows, P r.info)
    (hroot : ofRows rows = some n) : n.All P := by
  have hrun : ∀ entries : List (Row × Nat), (∀ e ∈ entries, P e.1.info) →
      AllClosed P (entries.foldr closeRow (Array.replicate rows.length [], none)) := by
    intro entries hentries
    induction entries with
    | nil =>
        refine ⟨fun i n hn => ?_, by simp⟩
        simp only [List.foldr_nil, Array.getD_eq_getD_getElem?, Array.getElem?_replicate] at hn
        split at hn <;> cases hn
    | cons e entries ih =>
        exact (ih fun x hx => hentries x (List.mem_cons_of_mem e hx)).closeRow
          (hentries e List.mem_cons_self)
  exact (hrun rows.zipIdx fun e he => h e.1 (List.fst_mem_of_mem_zipIdx he)).last n hroot

end Rows

end Syntax

/-! ## Places of byte offsets -/

/-- The last line of some bytes begins at an offset. -/
structure LastLineAt (bytes : List UInt8) (start : Nat) : Prop where
  le_length : start ≤ bytes.length
  after_feed : start = 0 ∨ ∃ feed, start = feed + 1 ∧ bytes[feed]? = some 10
  unbroken : 10 ∉ bytes.drop start

/-- A position is that of a byte offset, both counted from one: the line by the line feeds before
the offset, the column by the bytes since the line began. -/
structure Position.IsAt (bytes : List UInt8) (offset : Nat) (p : Position) : Prop where
  line : p.line = (bytes.take offset).count 10 + 1
  col : ∃ start, LastLineAt (bytes.take offset) start ∧ p.col = offset - start + 1

/-- One more byte adds its place if it is a line feed. -/
theorem feedsFrom_concat (offset : Nat) (bytes : List UInt8) (b : UInt8) :
    feedsFrom offset (bytes ++ [b]) =
      feedsFrom offset bytes ++ if b == 10 then [offset + bytes.length] else [] := by
  induction bytes generalizing offset with
  | nil => simp [feedsFrom]
  | cons a bytes ih =>
      simp only [List.cons_append, feedsFrom, ih, List.length_cons]
      split <;> simp [Nat.add_assoc, Nat.add_comm 1]

/-- There are as many places as line feeds. -/
theorem length_feedsFrom (offset : Nat) (bytes : List UInt8) :
    (feedsFrom offset bytes).length = bytes.count 10 := by
  induction bytes generalizing offset with
  | nil => rfl
  | cons b bytes ih =>
      rw [feedsFrom, List.count_cons]
      split <;> simp [ih]

/-- No place is before the start. -/
theorem le_of_mem_feedsFrom {offset feed : Nat} {bytes : List UInt8}
    (h : feed ∈ feedsFrom offset bytes) : offset ≤ feed := by
  induction bytes generalizing offset with
  | nil => cases h
  | cons b bytes ih =>
      rw [feedsFrom] at h
      split at h
      · rcases List.mem_cons.1 h with rfl | h
        · exact Nat.le_refl _
        · exact Nat.le_of_succ_le (ih h)
      · exact Nat.le_of_succ_le (ih h)

/-- The line feeds before an offset are those of the bytes before it. -/
theorem takeWhile_feedsFrom (offset count : Nat) (bytes : List UInt8) :
    (feedsFrom offset bytes).takeWhile (· < offset + count) =
      feedsFrom offset (bytes.take count) := by
  induction bytes generalizing offset count with
  | nil => simp [feedsFrom]
  | cons b bytes ih =>
      cases count with
      | zero =>
          cases hfeeds : feedsFrom offset (b :: bytes) with
          | nil => rfl
          | cons feed feeds =>
              have hle : offset ≤ feed := le_of_mem_feedsFrom (hfeeds ▸ List.mem_cons_self)
              rw [List.takeWhile_cons_of_neg (by simpa using hle)]
              rfl
      | succ count =>
          have hrest := ih (offset + 1) count
          rw [Nat.add_right_comm, Nat.add_assoc] at hrest
          simp only [List.take_succ_cons, feedsFrom]
          split
          · rw [List.takeWhile_cons_of_pos (by simp), hrest]
          · exact hrest

/-- The last line starts behind the last line feed. -/
theorem lastLineAt_feedsFrom (bytes : List UInt8) :
    LastLineAt bytes (((feedsFrom 0 bytes).getLast?.map (· + 1)).getD 0) := by
  induction bytes using List.reverseRecOn with
  | nil => exact ⟨Nat.le_refl 0, .inl rfl, List.not_mem_nil⟩
  | append_singleton bytes b ih =>
      rw [feedsFrom_concat, Nat.zero_add]
      by_cases hb : b = 10
      · refine ⟨by simp [hb], .inr ⟨bytes.length, by simp [hb], by simp [hb]⟩, by simp [hb]⟩
      · rw [if_neg (by simpa using hb), List.append_nil]
        refine ⟨by simpa using Nat.le_succ_of_le ih.le_length, ?_, ?_⟩
        · refine ih.after_feed.imp_right ?_
          rintro ⟨feed, hstart, hfeed⟩
          have hlt : feed < bytes.length := (List.getElem?_eq_some_iff.1 hfeed).1
          exact ⟨feed, hstart, by rw [List.getElem?_append_left hlt, hfeed]⟩
        · rw [List.drop_append_of_le_length ih.le_length, List.mem_append, List.mem_singleton]
          exact not_or.2 ⟨ih.unbroken, Ne.symm hb⟩

/-- The position of an offset is its line and its column in it. -/
theorem isAt_positionAt (bytes : List UInt8) (offset : Nat) :
    (positionAt (feedsFrom 0 bytes) offset).IsAt bytes offset := by
  have hpassed : (feedsFrom 0 bytes).takeWhile (· < offset) = feedsFrom 0 (bytes.take offset) := by
    simpa using takeWhile_feedsFrom 0 offset bytes
  simp only [positionAt, Position.ofPoint, hpassed]
  exact ⟨by rw [length_feedsFrom], _, lastLineAt_feedsFrom _, rfl⟩

/-- A node has the location of its byte range. -/
def Syntax.NodeInfo.Located (bytes : List UInt8) (info : Syntax.NodeInfo) : Prop :=
  info.location.start.IsAt bytes info.first ∧ info.location.stop.IsAt bytes info.last

/-! ## Places that count from one -/

/-- The start of a location counts from one. -/
def Location.FromOne (l : Location) : Prop :=
  1 ≤ l.start.line ∧ 1 ≤ l.start.col

/-- Lines and columns are counted from one. -/
theorem fromOne_positionAt (feeds : List Nat) (first : Nat) (stop : Position) :
    Location.FromOne ⟨positionAt feeds first, stop⟩ :=
  ⟨Nat.le_add_left 1 _, Nat.le_add_left 1 _⟩

/-- All places in the outline of a document count from one. -/
def Syntax.Document.FromOne (d : Syntax.Document) : Prop :=
  ∀ c ∈ d.walk, c.location.FromOne

open Syntax

/-- All trees of a workspace have places that count from one. -/
def Workspace.FromOne (w : Workspace) : Prop :=
  ∀ t ∈ w.trees, t.2.All fun info => info.location.FromOne

/-- A document that is parsed from a workspace has places that count from one. -/
theorem Workspace.FromOne.parse {w : Workspace} (h : w.FromOne) (a : Adapter) (path : String)
    (content : ByteArray) : (w.parse a path content).FromOne := by
  have hroot : (w.parse a path content).root.All fun info => info.location.FromOne := by
    unfold Workspace.parse
    cases htree : w.trees.lookup (normalPath path) with
    | some tree =>
        rcases List.lookup_eq_some_iff.1 htree with ⟨before, after, hsplit, _⟩
        exact h (normalPath path, tree) (by simp [hsplit])
    | none => exact .mk ⟨Nat.le_refl 1, Nat.le_refl 1⟩ (by simp)
  intro c hc
  rw [Document.walk_eq] at hc
  exact hroot.of_mem_scan hc

namespace Snapshot

/-- A row that is read has places that count from one. -/
theorem fromOne_row? {feeds : List Nat} {j : Json} {r : Row} (h : row? feeds j = some r) :
    r.info.location.FromOne := by
  unfold row? at h
  split at h
  · cases h
    exact fromOne_positionAt _ _ _
  · cases h

/-- What holds of all rows of a listed tree holds of all its nodes. -/
theorem all_treeOf {P : NodeInfo → Prop} {j : Json} {content : ByteArray} {n : Node}
    (hrows : ∀ j r, row? (feedsFrom 0 content.toList) j = some r → P r.info)
    (h : treeOf j content = some n) : n.All P := by
  unfold treeOf at h
  split at h
  · refine all_ofRows ?_ h
    intro r hr
    rcases List.mem_filterMap.1 hr with ⟨j, _, hrow⟩
    exact hrows j r hrow
  · cases h

/-- A tree that is read has places that count from one. -/
theorem fromOne_treeOf {j : Json} {content : ByteArray} {n : Node} (h : treeOf j content = some n) :
    n.All fun info => info.location.FromOne :=
  all_treeOf (fun _ _ hrow => fromOne_row? hrow) h

/-- The nodes of a listed tree have the locations of their byte ranges. -/
theorem located_treeOf {j : Json} {content : ByteArray} {n : Node}
    (h : treeOf j content = some n) : n.All (NodeInfo.Located content.toList) := by
  refine all_treeOf (fun j r hrow => ?_) h
  unfold row? at hrow
  split at hrow
  · cases hrow
    exact ⟨isAt_positionAt _ _, isAt_positionAt _ _⟩
  · cases hrow

/-- One more file leaves all places of a workspace counted from one. -/
theorem fromOne_addFile {w : Workspace} (h : w.FromOne) (j : Json) : (addFile w j).FromOne := by
  unfold addFile
  cases entry? j with
  | none => exact h
  | some e =>
      intro t ht
      simp only [Workspace.setTree, List.mem_append] at ht
      rcases ht with hkept | hadded
      · refine h t ?_
        have hsame : (w.put (j.textAt "path" "") e).trees = w.trees := by
          unfold Workspace.put Workspace.putAt
          split <;> rfl
        rw [hsame] at hkept
        exact (List.mem_filter.1 hkept).1
      · rw [Option.mem_toList, Option.map_eq_some_iff] at hadded
        rcases hadded with ⟨n, hn, rfl⟩
        exact fromOne_treeOf hn

/-- The trees of a snapshot have places that count from one. -/
theorem fromOne_workspace (files : List Json) : (workspace files).FromOne := by
  have hrun : ∀ (files : List Json) (w : Workspace),
      w.FromOne → (files.foldl addFile w).FromOne := by
    intro files
    induction files with
    | nil => exact fun w hw => hw
    | cons j files ih => exact fun w hw => ih _ (fromOne_addFile hw j)
  exact hrun files {} (by simp [Workspace.FromOne])

/-- The places in a document that is parsed from a snapshot count from one. -/
theorem fromOne_parse (files : List Json) (a : Adapter) (path : String) (content : ByteArray) :
    ((workspace files).parse a path content).FromOne :=
  (fromOne_workspace files).parse a path content

end Snapshot
end CrossAudit
