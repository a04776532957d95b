import CrossAudit.Graph.Html
import CrossAudit.Proofs.Json.ScriptEnd

/-!
# Ends of the script in a graph's page

The page of a graph has one script, with the graph as a document in it.  What the script shows is
set as plain text, but the document itself is not escaped for a page: a text of the graph with
`</script` in it ends the script, and what follows is read as markup.

Main results:

- Theorem `exists_render_eq`: down to its own closing tag the page has as many ends of a script as
  the texts that are shown.
- Theorem `scriptEnds_render_eq_one_iff`: so it has just its own exactly if none of them has one.
- Theorem `scriptEnds_twice_tagNamed`: a node that is named by a closing tag ends the script early.
-/

namespace CrossAudit
namespace Graph
namespace Html

open Text

/-! ## The texts that are shown -/

/-- The texts of a node in the page. -/
def nodeTexts (n : Node) : List String :=
  [n.id, n.type, n.name, n.file, n.language, n.cluster]

/-- The texts of an edge in the page. -/
def edgeTexts (e : Edge) : List String :=
  [e.source, e.target, e.type]

/-- The texts of a cycle in the page. -/
def cycleTexts (c : Cycle) : List String :=
  c.nodes ++ [c.severity]

/-- The texts of a graph in the page: those of the nodes and edges in focus, and of all cycles. -/
def shownTexts (g : Graph) (focus : String) : List String :=
  (focused g focus).1.flatMap nodeTexts ++ (focused g focus).2.flatMap edgeTexts ++
    g.cycles.flatMap cycleTexts

/-! ## The document -/

theorem scriptEndsOf_nodeJson (n : Node) :
    scriptEndsOf (nodeJson n).texts = scriptEndsOf (nodeTexts n) := by
  have hlabel : scriptEnds (n.type ++ ": " ++ n.name) = scriptEnds n.type + scriptEnds n.name :=
    scriptEnds_across (by decide)
  simp (disch := decide) only [nodeJson, nodeTexts, Json.texts, Json.scriptEndsOf_memberTexts_cons,
    Json.scriptEndsOf_memberTexts_nil, scriptEndsOf_cons, scriptEndsOf_nil, hlabel]
  omega

theorem scriptEndsOf_edgeJson (e : Edge) :
    scriptEndsOf (edgeJson e).texts = scriptEndsOf (edgeTexts e) := by
  simp (disch := decide) only [edgeJson, edgeTexts, Json.texts, Json.scriptEndsOf_memberTexts_cons,
    Json.scriptEndsOf_memberTexts_nil, scriptEndsOf_cons, scriptEndsOf_nil]
  omega

theorem scriptEndsOf_cycleJson (c : Cycle) :
    scriptEndsOf (cycleJson c).texts = scriptEndsOf (cycleTexts c) := by
  have hnodes : scriptEndsOf (Json.itemTexts (c.nodes.map Json.str)) = scriptEndsOf c.nodes := by
    have hsingle : ∀ t : String, scriptEndsOf (Json.str t).texts = scriptEndsOf [t] := fun _ => rfl
    rw [Json.scriptEndsOf_itemTexts_map hsingle, List.flatMap_singleton']
  simp (disch := decide) only [cycleJson, cycleTexts, Json.ofTexts, Json.texts,
    Json.scriptEndsOf_memberTexts_cons, Json.scriptEndsOf_memberTexts_nil, scriptEndsOf_append,
    scriptEndsOf_cons, scriptEndsOf_nil, hnodes]

/-- The document in the page ends the script as often as the texts that are shown do. -/
theorem scriptEnds_document (nodes : List Node) (edges : List Edge) (cycles : List Cycle) :
    scriptEnds ((payload nodes edges cycles).render Json.spacedAscii) =
      scriptEndsOf (nodes.flatMap nodeTexts ++ edges.flatMap edgeTexts ++
        cycles.flatMap cycleTexts) := by
  rw [Json.scriptEnds_render]
  simp (disch := decide) only [payload, Json.texts, Json.scriptEndsOf_memberTexts_cons,
    Json.scriptEndsOf_memberTexts_nil, scriptEndsOf_append,
    Json.scriptEndsOf_itemTexts_map scriptEndsOf_nodeJson,
    Json.scriptEndsOf_itemTexts_map scriptEndsOf_edgeJson,
    Json.scriptEndsOf_itemTexts_map scriptEndsOf_cycleJson]
  omega

/-! ## The page -/

/-- The lines of the page down to the figures end no script. -/
theorem scriptEndsOf_head : scriptEndsOf head = 0 := by
  rw [scriptEndsOf_eq_zero_iff]
  simp only [head, List.forall_mem_cons, List.not_mem_nil, false_imp_iff, implies_true,
    and_true]
  and_intros
  -- A literal is counted as its list of characters, which spares the decoding of its bytes.
  all_goals exact (scriptEnds_ofList _).trans (by decide +kernel)

/-- The line of figures ends no script. -/
theorem scriptEnds_figures (m n k : Nat) :
    scriptEnds ("  <p>" ++ s!"{m} nodes, {n} edges, {k} cycles" ++ "</p>") = 0 := by
  have hdigits : ∀ n : Nat, '<' ∉ (toString n).toList := fun n => angle_notMem_toString n
  have hfigures : '<' ∉ s!"{m} nodes, {n} edges, {k} cycles".toList := by
    simp only [String.toList_append, List.mem_append, not_or]
    exact ⟨⟨⟨⟨⟨hdigits m, by decide⟩, hdigits n⟩, by decide⟩, hdigits k⟩, by decide⟩
  have htag : "  <p>" = "  <p" ++ ">" := rfl
  calc
    _ = scriptEnds "  <p" + scriptEnds (s!"{m} nodes, {n} edges, {k} cycles" ++ "</p>") := by
      rw [htag, String.append_assoc, scriptEnds_across (by decide)]
    _ = scriptEnds "  <p" + scriptEnds "</p>" := by rw [scriptEnds_append_of_plain hfigures]
    _ = 0 := by decide

/-- The lines of the page from the figures to the script end no script. -/
theorem scriptEndsOf_body : scriptEndsOf body = 0 := by
  rw [scriptEndsOf_eq_zero_iff]
  simp only [body, List.forall_mem_cons, List.not_mem_nil, false_imp_iff, implies_true,
    and_true]
  and_intros
  all_goals exact (scriptEnds_ofList _).trans (by decide +kernel)

/-- The lines of the script behind the document do not end it. -/
theorem scriptEndsOf_statements : scriptEndsOf (script.take 19) = 0 := by
  rw [scriptEndsOf_eq_zero_iff]
  simp only [script, List.take_succ_cons, List.take_zero, List.forall_mem_cons, List.not_mem_nil,
    false_imp_iff, implies_true, and_true]
  and_intros
  all_goals exact (scriptEnds_ofList _).trans (by decide +kernel)

/-- The page from its own closing tag on. -/
def closing : String :=
  "</script>\n</body>\n</html>\n"

/-- Lines with the rest of the script behind them stop with the page's own closing tag. -/
theorem join_script (lines : List String) :
    Text.join "\n" (lines ++ script) =
      Text.join "\n" (lines ++ script.take 19) ++ "\n" ++ "  " ++ closing := by
  have hclosing : Text.join "\n" (script.drop 19) = "  " ++ closing := by decide
  have hstatements : lines ++ script.take 19 ≠ [] :=
    List.append_ne_nil_of_right_ne_nil lines (List.cons_ne_nil _ _)
  calc
    Text.join "\n" (lines ++ script)
        = Text.join "\n" (lines ++ script.take 19 ++ script.drop 19) := by
      rw [List.append_assoc, List.take_append_drop]
    _ = Text.join "\n" (lines ++ script.take 19) ++ "\n" ++ Text.join "\n" (script.drop 19) :=
      String.intercalate_append_of_ne_nil hstatements (List.cons_ne_nil _ _)
    _ = Text.join "\n" (lines ++ script.take 19) ++ "\n" ++ "  " ++ closing := by
      rw [hclosing, ← String.append_assoc]

/-- The closing tag of the page ends a script once, whatever stands in front. -/
theorem scriptEnds_append_closing (s : String) :
    scriptEnds (s ++ "\n" ++ "  " ++ closing) = scriptEnds (s ++ "\n" ++ "  ") + 1 := by
  have hindent : scriptEnds "  " = 0 := by decide
  have hclosing : scriptEnds ("  " ++ closing) = 1 := by decide
  have hseparates : separates "\n" = true := by decide
  rw [String.append_assoc, scriptEnds_across hseparates, scriptEnds_across hseparates, hindent,
    hclosing]

/-- The lines of the page down to the document. -/
def openingLines (nodes : List Node) (edges : List Edge) (cycles : List Cycle) : List String :=
  head ++
    ["  <p>" ++ s!"{nodes.length} nodes, {edges.length} edges, {cycles.length} cycles" ++ "</p>"] ++
    body ++ ["    const graph = " ++ (payload nodes edges cycles).render Json.spacedAscii ++ ";"]

theorem render_eq_join (g : Graph) (focus : String) :
    render g focus =
      Text.join "\n" (openingLines (focused g focus).1 (focused g focus).2 g.cycles ++ script) :=
  rfl

theorem scriptEndsOf_openingLines (nodes : List Node) (edges : List Edge) (cycles : List Cycle) :
    scriptEndsOf (openingLines nodes edges cycles) =
      scriptEndsOf (nodes.flatMap nodeTexts ++ edges.flatMap edgeTexts ++
        cycles.flatMap cycleTexts) := by
  have hdocument : ∀ document : String,
      scriptEnds ("    const graph = " ++ document ++ ";") = scriptEnds document :=
    fun document => scriptEnds_between (by decide) (by decide)
  simp only [openingLines, scriptEndsOf_append, scriptEndsOf_cons, scriptEndsOf_nil,
    scriptEndsOf_head, scriptEndsOf_body, hdocument, scriptEnds_figures, scriptEnds_document,
    Nat.zero_add, Nat.add_zero]

/-- Down to its own closing tag the page has the ends of a script that the shown texts have. -/
theorem exists_render_eq (g : Graph) (focus : String) :
    ∃ before, render g focus = before ++ closing ∧
      scriptEnds before = scriptEndsOf (shownTexts g focus) ∧
      scriptEnds (render g focus) = scriptEnds before + 1 := by
  have hindent : scriptEnds "  " = 0 := by decide
  rw [render_eq_join, join_script]
  refine ⟨_, rfl, ?_, scriptEnds_append_closing _⟩
  rw [scriptEnds_across (by decide), scriptEnds_joinLines, scriptEndsOf_append,
    scriptEndsOf_openingLines, scriptEndsOf_statements, hindent, shownTexts, Nat.add_zero]

/-- The page ends its script once itself, and as often as the texts that are shown do. -/
theorem scriptEnds_render_eq (g : Graph) (focus : String) :
    scriptEnds (render g focus) = scriptEndsOf (shownTexts g focus) + 1 := by
  rcases exists_render_eq g focus with ⟨before, _, hbefore, hcount⟩
  rw [hcount, hbefore]

/-- A page has, in front of its own closing tag, as many ends of a script as the texts that are
shown have, and thus only its own exactly if none of them has one. -/
theorem scriptEnds_render_eq_one_iff (g : Graph) (focus : String) :
    (∃ before, render g focus = before ++ closing ∧
      scriptEnds before = scriptEndsOf (shownTexts g focus) ∧
      scriptEnds (render g focus) = scriptEnds before + 1) ∧
    (scriptEnds (render g focus) = 1 ↔ ∀ t ∈ shownTexts g focus, scriptEnds t = 0) := by
  refine ⟨exists_render_eq g focus, ?_⟩
  rw [scriptEnds_render_eq, ← scriptEndsOf_eq_zero_iff]
  omega

/-- A graph of one function whose name is the end of a script. -/
def tagNamed : Graph :=
  { nodes := [⟨"a", "</script>", "python", "", "function", 1, ""⟩] }

/-- The page of a node that is named by a closing tag ends its script twice. -/
theorem scriptEnds_twice_tagNamed : scriptEnds (render tagNamed "") = 2 := by
  rw [scriptEnds_render_eq]
  decide +kernel

end Html
end Graph
end CrossAudit
