import CrossAudit.Proofs.Assoc
import CrossAudit.Proofs.Graph.Quoting
import Mathlib.Data.List.Sort

/-!
# Reading graphs in the DOT language

A document in the DOT language is read back: first into tokens, of which quoted names are one kind,
then into statements, and then into blocks, each with the nodes and edges that it declares.  Names
may hold line feeds, braces and whatever else separates statements, so the reading depends on where
quoted names end.

Main results:

- Theorem `statements?_join`: lines that say one statement each make a document of these
  statements.
- Theorem `statements?_render`: what the document of a graph says.
- Theorem `names_read_back`: the names in it are those of the nodes, cluster by cluster, and those
  of the ends of the edges.
-/

namespace CrossAudit
namespace Graph
namespace Dot

variable {body : List Char}

/-! ## Tokens -/

/-- The smallest parts of a document: quoted names, words, and other signs. -/
inductive Token where
  | name (text : String)
  | word (text : String)
  | sign (c : Char)
  deriving DecidableEq

/-- Where the reading of tokens is: outside of quoted names with a word so far, inside a name, or
inside behind a backslash.  Characters are given last first. -/
inductive Place where
  | outside (word : List Char)
  | inside (body : List Char)
  | behindSlash (body : List Char)
  deriving DecidableEq

/-- Characters that words are made of. -/
def isWordChar (c : Char) : Bool :=
  c.isAlphanum || c == '_'

/-- Characters between tokens. -/
def isGap (c : Char) : Bool :=
  [' ', '\n', '\r', '\t'].contains c

/-- The word of given characters, if there are any. -/
def wordOf (word : List Char) : List Token :=
  if word.isEmpty then [] else [.word (String.ofList word.reverse)]

/-- The name of a text between quotation marks. -/
def nameOf (body : List Char) : Token :=
  .name (String.ofList (unescape body))

/-- Where the reading is after a character, and the tokens that are complete then. -/
def Place.read : Place → Char → Place × List Token
  | .outside word, c =>
    if c == '"' then (.inside [], wordOf word)
    else if isWordChar c then (.outside (c :: word), [])
    else (.outside [], wordOf word ++ if isGap c then [] else [.sign c])
  | .inside body, c =>
    if c == '"' then (.outside [], [nameOf body.reverse])
    else if c == '\\' then (.behindSlash (c :: body), [])
    else (.inside (c :: body), [])
  | .behindSlash body, c => (.inside (c :: body), [])

/-- Where the reading is after a text, and the tokens that are complete then. -/
def scan : Place → List Char → Place × List Token
  | p, [] => (p, [])
  | p, c :: cs => ((scan (p.read c).1 cs).1, (p.read c).2 ++ (scan (p.read c).1 cs).2)

/-- The tokens of a text; none if a quoted name in it does not end. -/
def tokens? (cs : List Char) : Option (List Token) :=
  match scan (.outside []) cs with
  | (.outside word, ts) => some (ts ++ wordOf word)
  | _ => none

/-- A text in two parts is read part by part. -/
theorem scan_append (p : Place) (xs ys : List Char) :
    scan p (xs ++ ys) = ((scan (scan p xs).1 ys).1, (scan p xs).2 ++ (scan (scan p xs).1 ys).2) := by
  induction xs generalizing p with
  | nil => rfl
  | cons c xs ih => rw [List.cons_append, scan, scan, ih, List.append_assoc]

/-- Inside a quoted name, a protected text is passed. -/
theorem Protected.scan_inside (h : Protected body) (before : List Char) :
    scan (.inside before) body = (.inside (body.reverse ++ before), []) := by
  induction h generalizing before with
  | nil => rfl
  | plain hslash hquote _ ih => simp [scan, Place.read, hslash, hquote, ih]
  | escaped c _ ih => simp [scan, Place.read, ih]

/-- A text begins and ends between tokens, and these are its tokens. -/
def Reads (s : String) (ts : List Token) : Prop :=
  scan (.outside []) s.toList = (.outside [], ts)

namespace Reads

variable {s t : String} {ts us : List Token}

instance : Decidable (Reads s ts) :=
  inferInstanceAs (Decidable (_ = _))

/-- Texts that are read to the end are read one after the other. -/
theorem append (h : Reads s ts) (h' : Reads t us) : Reads (s ++ t) (ts ++ us) := by
  unfold Reads at *
  rw [String.toList_append, scan_append, h, h']

/-- A text that is read to the end consists of its tokens. -/
theorem tokens? (h : Reads s ts) : tokens? s.toList = some ts := by
  unfold Reads at h
  simp [Dot.tokens?, h, wordOf]

/-- A protected text between quotation marks is one name. -/
theorem between (h : Protected s.toList) : Reads ("\"" ++ s ++ "\"") [nameOf s.toList] := by
  have hopen : Place.read (.outside []) '"' = (.inside [], []) := by decide
  have htext : ("\"" ++ s ++ "\"").toList = '"' :: (s.toList ++ ['"']) := by simp
  rw [Reads, htext, scan, hopen, scan_append, h.scan_inside]
  simp [scan, Place.read]

/-- A quoted text is read as the name that it is of. -/
theorem quoted (s : String) : Reads (Dot.quoted s) [.name s] := by
  have hname : nameOf (escape s).toList = .name s := by
    rw [nameOf, unescape_escape, String.ofList_toList]
  rw [← hname]
  exact between (protected_escape s)

end Reads

/-! ## Statements -/

/-- What a document says, one after the other: blocks begin and end, a block gets a label, nodes and
edges are declared, and anything else is set. -/
inductive Statement where
  | opening
  | closing
  | label (text : String)
  | node (id : String)
  | edge (source target : String)
  | setting
  deriving DecidableEq

/-- Whether a token ends a statement. -/
def Token.ends : Token → Bool
  | .sign c => [';', '\x7b', '\x7d'].contains c
  | _ => false

/-- Tokens cut behind those that end statements, with the tokens of the first statement so far, the
last one first. -/
def cut : List Token → List Token → List (List Token)
  | front, [] => if front.isEmpty then [] else [front.reverse]
  | front, t :: ts => if t.ends then (t :: front).reverse :: cut [] ts else cut (t :: front) ts

/-- The statement of some tokens. -/
def Statement.ofTokens : List Token → Statement
  | [.sign '\x7d'] => .closing
  | [.word "label", .sign '=', .name text, .sign ';'] => .label text
  | .name id :: .sign '[' :: _ => .node id
  | .name source :: .sign '-' :: .sign '>' :: .name target :: _ => .edge source target
  | ts => if ts.getLast? == some (.sign '\x7b') then .opening else .setting

/-- The statements of a document; none if a quoted name in it does not end. -/
def statements? (document : String) : Option (List Statement) :=
  (tokens? document.toList).map fun ts => (cut [] ts).map Statement.ofTokens

/-- Whether tokens make one statement: the last one ends it, and no other does. -/
def completes : List Token → Bool
  | [] => false
  | t :: ts => if t.ends then ts.isEmpty else completes ts

/-- A line says one statement. -/
def Says (line : String) (s : Statement) : Prop :=
  ∃ ts, Reads line ts ∧ completes ts = true ∧ Statement.ofTokens ts = s

/-- A whole statement in front is cut off as one. -/
theorem cut_append {front ts : List Token} (hts : completes ts = true) (rest : List Token) :
    cut front (ts ++ rest) = (front.reverse ++ ts) :: cut [] rest := by
  induction ts generalizing front with
  | nil => cases hts
  | cons t ts ih =>
      rw [completes] at hts
      rw [List.cons_append, cut]
      split at hts
      · rename_i hends
        rw [if_pos hends, List.isEmpty_iff.1 hts, List.reverse_cons, List.nil_append]
      · rename_i hends
        rw [if_neg hends, ih hts, List.reverse_cons, List.append_assoc, List.singleton_append]

/-- A line in front of others is read before them. -/
theorem Reads.join_cons {line : String} {lines : List String} {ts us : List Token}
    (hline : Reads line ts) (hlines : Reads (Text.join "\n" lines) us) :
    Reads (Text.join "\n" (line :: lines)) (ts ++ us) := by
  cases lines with
  | nil =>
      have hnone : us = [] := (Prod.mk.inj hlines).2.symm
      rw [hnone, List.append_nil, Text.join, String.intercalate_singleton]
      exact hline
  | cons next lines =>
      have hfeed : Reads "\n" [] := by decide
      have hreads := (hline.append hfeed).append hlines
      rw [List.append_nil] at hreads
      rwa [Text.join, String.intercalate_cons_cons]

/-- Lines that say one statement each make a document of these statements. -/
theorem statements?_join {lines : List String} {ss : List Statement}
    (h : List.Forall₂ Says lines ss) : statements? (Text.join "\n" lines) = some ss := by
  suffices hread : ∃ ts, Reads (Text.join "\n" lines) ts ∧
      (cut [] ts).map Statement.ofTokens = ss by
    obtain ⟨ts, hreads, hcut⟩ := hread
    rw [statements?, hreads.tokens?, Option.map_some, hcut]
  induction h with
  | nil => exact ⟨[], rfl, rfl⟩
  | cons hline _ ih =>
      obtain ⟨ts, hreads, hcompletes, rfl⟩ := hline
      obtain ⟨us, hus, hcut⟩ := ih
      refine ⟨_, hreads.join_cons hus, ?_⟩
      rw [cut_append hcompletes, List.reverse_nil, List.nil_append, List.map_cons, hcut]

/-! ## The lines of a document -/

/-- The colours of nodes need no escapes. -/
theorem protected_colourOf (language : String) : Protected (colourOf language).toList := by
  have hnamed : (colours.all fun p => p.2.toList.all isPlain) = true := by decide
  rw [colourOf]
  cases hlookup : colours.lookup language with
  | none => exact .of_all (by decide)
  | some colour =>
      have hmem : (language, colour) ∈ colours :=
        (Assoc.lookup_eq_some_iff_mem (by decide) language colour).1 hlookup
      exact .of_all (List.all_eq_true.1 hnamed (language, colour) hmem)

/-- The digits of a number need no escape. -/
theorem protected_repr (n : Nat) : Protected (toString n).toList := by
  apply Protected.of_all
  rw [List.all_eq_true]
  intro c hc
  have hdigit : c.isDigit = true := by
    refine Nat.isDigit_of_mem_toDigits (by decide : 0 < 10) (Nat.le_refl 10) (n := n) ?_
    rwa [← Nat.toList_repr]
  rw [isPlain, Bool.and_eq_true, bne_iff_ne, bne_iff_ne]
  constructor <;> rintro rfl <;> cases hdigit

/-- The line of a node declares that node. -/
theorem says_nodeLine (n : Node) : Says (nodeLine n) (.node n.id) := by
  have hindent : Reads "    " [] := by decide
  have hlabel : Reads " [label=" [.sign '[', .word "label", .sign '='] := by decide
  have hfill : Reads ", fillcolor=" [.sign ',', .word "fillcolor", .sign '='] := by decide
  have hend : Reads "];" [.sign ']', .sign ';'] := by decide
  have htitle : Protected (escape n.type ++ "\\n" ++ escape n.name).toList := by
    rw [String.toList_append, String.toList_append]
    exact ((protected_escape n.type).append (.escaped 'n' .nil)).append (protected_escape n.name)
  have hreads := ((((((hindent.append (.quoted n.id)).append hlabel).append
    (.between htitle)).append hfill).append (.between (protected_colourOf n.language))).append hend)
  have hline : nodeLine n = "    " ++ quoted n.id ++ " [label=" ++
      ("\"" ++ (escape n.type ++ "\\n" ++ escape n.name) ++ "\"") ++ ", fillcolor=" ++
      ("\"" ++ colourOf n.language ++ "\"") ++ "];" := by
    rw [← String.toList_inj]
    simp [nodeLine]
  rw [hline]
  exact ⟨_, hreads, rfl, rfl⟩

/-- What stands behind the kind of an edge completes its statement. -/
theorem exists_reads_marks (cyclic remote : Bool) : ∃ ts,
    Reads ((if cyclic then ", color=red" else "") ++ (if remote then ", style=dashed" else "") ++
      "];") ts ∧ completes ts = true := by
  refine ⟨_, Prod.ext ?_ rfl, ?_⟩ <;> cases cyclic <;> cases remote <;> decide

/-- The line of an edge declares that edge. -/
theorem says_edgeLine (cyclic : List (String × String)) (e : Edge) :
    Says (edgeLine cyclic e) (.edge e.source e.target) := by
  have hindent : Reads "  " [] := by decide
  have harrow : Reads " -> " [.sign '-', .sign '>'] := by decide
  have hlabel : Reads " [label=" [.sign '[', .word "label", .sign '='] := by decide
  obtain ⟨ts, hmarks, hcompletes⟩ :=
    exists_reads_marks (cyclic.contains (e.source, e.target)) (e.protocol == some "http")
  have hreads := (((((hindent.append (.quoted e.source)).append harrow).append
    (.quoted e.target)).append hlabel).append (.quoted e.type)).append hmarks
  rw [← String.append_assoc, ← String.append_assoc] at hreads
  exact ⟨_, hreads, hcompletes, rfl⟩

/-- The heading of a cluster opens a block. -/
theorem says_heading (index : Nat) :
    Says ("  subgraph \"cluster_" ++ toString index ++ "\" \x7b") .opening := by
  have hfront : Reads "  subgraph " [.word "subgraph"] := by decide
  have hback : Reads " \x7b" [.sign '\x7b'] := by decide
  have hname : Protected ("cluster_" ++ toString index).toList := by
    rw [String.toList_append]
    exact (Protected.of_all (by decide)).append (protected_repr index)
  have hline : "  subgraph \"cluster_" ++ toString index ++ "\" \x7b" =
      "  subgraph " ++ ("\"" ++ ("cluster_" ++ toString index) ++ "\"") ++ " \x7b" := by
    rw [← String.toList_inj]
    simp
  rw [hline]
  exact ⟨_, (hfront.append (.between hname)).append hback, rfl, rfl⟩

/-- The label of a cluster is said to be its label. -/
theorem says_label (label : String) : Says ("    label=" ++ quoted label ++ ";") (.label label) := by
  have hfront : Reads "    label=" [.word "label", .sign '='] := by decide
  have hback : Reads ";" [.sign ';'] := by decide
  exact ⟨_, (hfront.append (.quoted label)).append hback, rfl, rfl⟩

/-- What a cluster says: a block with the cluster's name and its nodes. -/
def clusterStatements (cluster : String × List Node) : List Statement :=
  [.opening, .label cluster.1] ++ cluster.2.map (fun n => .node n.id) ++ [.closing]

/-- The lines of a cluster say what the cluster does. -/
theorem says_clusterLines (index : Nat) (cluster : String × List Node) :
    List.Forall₂ Says (clusterLines index cluster) (clusterStatements cluster) := by
  have hclosing : Says "  \x7d" .closing := ⟨[.sign '\x7d'], by decide, rfl, rfl⟩
  have hnodes : List.Forall₂ Says (cluster.2.map nodeLine)
      (cluster.2.map fun n => .node n.id) := by
    rw [List.forall₂_map_left_iff, List.forall₂_map_right_iff, List.forall₂_same]
    exact fun n _ => says_nodeLine n
  exact List.rel_append (List.rel_append
    (.cons (says_heading index) (.cons (says_label cluster.1) .nil)) hnodes) (.cons hclosing .nil)

/-- The lines of all clusters say what the clusters do. -/
theorem says_clusters (cs : List (String × List Node)) (start : Nat) :
    List.Forall₂ Says ((cs.zipIdx start).flatMap fun (c, i) => clusterLines i c)
      (cs.flatMap clusterStatements) := by
  induction cs generalizing start with
  | nil => exact .nil
  | cons c cs ih =>
      rw [List.zipIdx_cons, List.flatMap_cons, List.flatMap_cons]
      exact List.rel_append (says_clusterLines start c) (ih (start + 1))

/-- What the document of a graph says: a block with settings, a block for each cluster, and the
edges. -/
theorem statements?_render (g : Graph) (focus : String) :
    statements? (render g focus) = some
      ([.opening, .setting, .setting] ++
        (clusters (focused g focus).1).flatMap clusterStatements ++
        (focused g focus).2.map (fun e => .edge e.source e.target) ++ [.closing]) := by
  apply statements?_join
  have hopening : Says "digraph Dependencies \x7b" .opening :=
    ⟨[.word "digraph", .word "Dependencies", .sign '\x7b'], by decide, rfl, rfl⟩
  have hdirection : Says "  rankdir=LR;" .setting :=
    ⟨[.word "rankdir", .sign '=', .word "LR", .sign ';'], by decide, rfl, rfl⟩
  have hshape : Says "  node [shape=box, style=filled, fontcolor=white];" .setting := by
    refine ⟨_, Prod.ext ?_ rfl, ?_, ?_⟩ <;> decide
  have hclosing : Says "\x7d" .closing := ⟨[.sign '\x7d'], by decide, rfl, rfl⟩
  have hedges : List.Forall₂ Says
      ((focused g focus).2.map (edgeLine (g.cycles.flatMap Cycle.links)))
      ((focused g focus).2.map fun e => .edge e.source e.target) := by
    rw [List.forall₂_map_left_iff, List.forall₂_map_right_iff, List.forall₂_same]
    exact fun e _ => says_edgeLine _ e
  exact List.rel_append (List.rel_append (List.rel_append
    (.cons hopening (.cons hdirection (.cons hshape .nil)))
    (says_clusters (clusters (focused g focus).1) 0)) hedges) (.cons hclosing .nil)

/-! ## Clusters -/

/-- The names of the clusters of nodes, in order. -/
def labels (nodes : List Node) : List String :=
  (nodes.map clusterOf).eraseDups.mergeSort fun a b => decide (a ≤ b)

/-- The labels are those that some node falls under. -/
theorem mem_labels_iff {nodes : List Node} {l : String} :
    l ∈ labels nodes ↔ ∃ n ∈ nodes, clusterOf n = l := by
  rw [labels, List.mem_mergeSort, List.mem_eraseDups, List.mem_map]

/-- The labels are in strictly increasing order. -/
theorem pairwise_labels (nodes : List Node) : (labels nodes).Pairwise (· < ·) := by
  have hsorted : (labels nodes).Pairwise fun a b => decide (a ≤ b) = true :=
    List.pairwise_mergeSort (by simpa using fun a b c => String.le_trans)
      (by simpa using String.le_total) _
  have hkeys : (Assoc.group (fun n => some (clusterOf n)) nodes).map (·.1) =
      (nodes.map clusterOf).eraseDups := by
    simp [Assoc.group_eq, Function.comp_def]
  have hdistinct : (labels nodes).Nodup := by
    rw [labels, (List.mergeSort_perm _ _).nodup_iff, ← hkeys]
    exact Assoc.nodup_keys_group _ nodes
  refine (hsorted.and hdistinct).imp fun {a b} h => ?_
  by_contra hnot
  exact h.2 (String.le_antisymm (of_decide_eq_true h.1) hnot)

/-- Clusters stand in the order of their names, and hold the nodes of their name in their order. -/
theorem clusters_eq (nodes : List Node) :
    clusters nodes = (labels nodes).map fun l => (l, nodes.filter fun n => clusterOf n = l) := by
  have hgroups : Assoc.group (fun n => some (clusterOf n)) nodes =
      (nodes.map clusterOf).eraseDups.map fun l => (l, nodes.filter fun n => clusterOf n = l) := by
    simp only [Assoc.group_eq, List.filterMap_eq_map', Option.some_beq_some]
    rfl
  rw [clusters, hgroups, labels, List.map_mergeSort]
  exact fun _ _ _ _ => rfl

/-! ## Blocks -/

/-- A block of a document: the label that it has, and what is declared in it, in order. -/
structure Block where
  label : Option String := none
  nodes : List String := []
  edges : List (String × String) := []
  deriving DecidableEq

/-- A block with one more statement in it. -/
def Block.add (b : Block) : Statement → Block
  | .label text => { b with label := some text }
  | .node id => { b with nodes := b.nodes ++ [id] }
  | .edge source target => { b with edges := b.edges ++ [(source, target)] }
  | _ => b

/-- The blocks that statements make, given those that are open, the innermost first.  They are
listed as they are closed; none if one is not closed, or something stands outside of blocks. -/
def close? : List Statement → List Block → Option (List Block)
  | [], [] => some []
  | [], _ :: _ => none
  | .opening :: rest, opened => close? rest ({} :: opened)
  | .closing :: rest, b :: opened => (close? rest opened).map (b :: ·)
  | s :: rest, b :: opened => close? rest (b.add s :: opened)
  | _ :: _, [] => none

/-- The blocks of a document. -/
def blocks? (document : String) : Option (List Block) :=
  (statements? document).bind fun ss => close? ss []

variable {b : Block} {opened : List Block} {rest : List Statement}

/-- Declared nodes go to the innermost block that is open. -/
theorem close?_nodes (ids : List String) :
    close? (ids.map .node ++ rest) (b :: opened) =
      close? rest ({ b with nodes := b.nodes ++ ids } :: opened) := by
  induction ids generalizing b with
  | nil => simp
  | cons id ids ih => simp [close?, Block.add, ih]

/-- Declared edges go to the innermost block that is open. -/
theorem close?_edges (es : List (String × String)) :
    close? (es.map (fun e => .edge e.1 e.2) ++ rest) (b :: opened) =
      close? rest ({ b with edges := b.edges ++ es } :: opened) := by
  induction es generalizing b with
  | nil => simp
  | cons e es ih => simp [close?, Block.add, ih]

/-- The block of a cluster. -/
def blockOf (cluster : String × List Node) : Block :=
  { label := some cluster.1, nodes := cluster.2.map (·.id) }

/-- The statements of a cluster close its block and leave the others open. -/
theorem close?_cluster (cluster : String × List Node) :
    close? (clusterStatements cluster ++ rest) opened =
      (close? rest opened).map (blockOf cluster :: ·) := by
  have hnodes : (cluster.2.map fun n => Statement.node n.id) =
      (cluster.2.map (·.id)).map .node := by
    rw [List.map_map]
    rfl
  have hbegin : ∀ ss, close? (.opening :: .label cluster.1 :: ss) opened =
      close? ss ({ label := some cluster.1 } :: opened) := fun _ => rfl
  simp only [clusterStatements, hnodes, List.append_assoc, List.cons_append, List.nil_append,
    hbegin, close?_nodes]
  rfl

/-- The statements of all clusters close their blocks, in order. -/
theorem close?_clusters (cs : List (String × List Node)) :
    close? (cs.flatMap clusterStatements ++ rest) opened =
      (close? rest opened).map (cs.map blockOf ++ ·) := by
  induction cs with
  | nil => simp
  | cons c cs ih =>
      rw [List.flatMap_cons, List.append_assoc, close?_cluster, ih, Option.map_map]
      rfl

/-- The blocks of nodes and edges: one for each cluster, in the order of their names, with its nodes
in their order, and one around them with the edges. -/
def blocksOf (nodes : List Node) (edges : List Edge) : List Block :=
  (labels nodes).map (fun l =>
      { label := some l, nodes := (nodes.filter fun n => clusterOf n = l).map (·.id) }) ++
    [{ edges := edges.map fun e => (e.source, e.target) }]

/-- The document of a graph has the blocks of the nodes and edges that are shown. -/
theorem blocks?_render (g : Graph) (focus : String) :
    blocks? (render g focus) = some (blocksOf (focused g focus).1 (focused g focus).2) := by
  have hbegin : ∀ ss, close? (.opening :: .setting :: .setting :: ss) [] = close? ss [{}] :=
    fun _ => rfl
  have hedges : (focused g focus).2.map (fun e => Statement.edge e.source e.target) =
      ((focused g focus).2.map fun e => (e.source, e.target)).map fun e => .edge e.1 e.2 := by
    rw [List.map_map]
    rfl
  rw [blocks?, statements?_render, Option.bind_some, List.append_assoc, List.append_assoc,
    List.cons_append, List.cons_append, List.cons_append, List.nil_append, hbegin,
    close?_clusters, hedges, close?_edges, clusters_eq, List.map_map]
  rfl

/-- Quoted names are read back: a quoted name ends at its own closing mark, whatever follows, and
undoing its escapes gives the name, so that different names are quoted differently.  In the document
of a graph, the names are those of the nodes, cluster by cluster in the order of the clusters'
names, and those of the ends of the edges. -/
theorem names_read_back :
    (∀ s, escape s = Text.replaceAll (Text.replaceAll s "\\" "\\\\") "\"" "\\\"") ∧
    (∀ (s : String) (rest : List Char),
      literal? ((quoted s).toList ++ rest) = some ((escape s).toList, rest) ∧
        unescape (escape s).toList = s.toList) ∧
    Function.Injective quoted ∧
    ∀ (g : Graph) (focus : String), ∃ labels : List String,
      labels.Pairwise (· < ·) ∧ (∀ l, l ∈ labels ↔ ∃ n ∈ (focused g focus).1, clusterOf n = l) ∧
      blocks? (render g focus) = some
        (labels.map (fun l =>
            { label := some l
              nodes := ((focused g focus).1.filter fun n => clusterOf n = l).map (·.id) }) ++
          [{ edges := (focused g focus).2.map fun e => (e.source, e.target) }]) := by
  refine ⟨escape_eq_replaceAll, fun s rest => ⟨literal?_quoted s rest, unescape_escape s⟩,
    quoted_injective, fun g focus => ?_⟩
  exact ⟨labels (focused g focus).1, pairwise_labels _, fun _ => mem_labels_iff,
    blocks?_render g focus⟩

end Dot
end Graph
end CrossAudit
