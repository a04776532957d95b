import CrossAudit.Console.Reply
import CrossAudit.Json.Display
import CrossAudit.Json.Order
import CrossAudit.Launcher.Basic
import CrossAudit.Report.Basic
import CrossAudit.Sorting

/-!
# Showing reports

Reports and runtimes as tables.  A table of findings lists the gravest first, then by file and line,
and shows a limited number of rows.
-/

namespace CrossAudit
namespace Console

/-- How many rows a table shows. -/
def maxRows : Nat := 50

/-- Seconds, with two places. -/
def seconds (x : Binary64) : String :=
  Decimal.fixed 2 x ++ "s"

/-! ## Languages -/

/-- The row of a language. -/
def languageRow (s : String × LanguageStats) : List String :=
  let t := s.2
  [s.1, toString t.filesAnalyzed, toString t.findings, toString t.functions, toString t.classes,
    toString t.interfaces, toString t.endpoints, seconds t.executionTime]

/-- The table of languages, by their names. -/
def languageTable (r : Report) : Output :=
  .table "Languages"
    ["Language", "Files", "Violations", "Functions", "Classes", "Interfaces", "Endpoints", "Time"]
    ((r.stats.mergeSort fun a b => decide (a.1 ≤ b.1)).map languageRow)

/-! ## Findings -/

/-- The style of a severity; an unknown one has none. -/
def styleOf (severity : String) : String :=
  ([("critical", "bold red"), ("warning", "yellow"), ("suggestion", "dim")].lookup severity).getD ""

/-- Whether a finding is listed before another one.  Lines of different shapes may not be
comparable. -/
def listedBefore (f g : Finding) : Except Fault Bool :=
  if Severity.rank f.severity != Severity.rank g.severity then
    .ok (decide (Severity.rank g.severity < Severity.rank f.severity))
  else if f.file != g.file then .ok (decide (f.file < g.file))
  else if f.line.same g.line then .ok false
  else f.line.before g.line

/-- The row of a finding. -/
def findingRow (f : Finding) : List String :=
  let style := styleOf f.severity
  ["[" ++ style ++ "]" ++ f.severity ++ "[/" ++ style ++ "]", f.file ++ ":" ++ f.line.display,
    f.rule, f.message]

/-- A table of findings, if there are any, and how many are not shown. -/
def findingTable (title : String) (fs : List Finding) : Except Fault (List Output) := do
  if fs.isEmpty then return []
  let rows := (← Sorting.sort listedBefore fs).map findingRow
  let table := Output.table title ["Severity", "Location", "Rule", "Message"] (rows.take maxRows)
  let more := rows.length - maxRows
  if more = 0 then return [table]
  return [table, .markup s!"[dim]… {more} more (use --json for the full list)[/dim]"]

/-! ## Errors, graph and summary -/

/-- The scope of an error: its file, else its language. -/
def scopeOf (e : ErrorRecord) : String :=
  ((e.file.filter (· != "")).or (e.language.filter (· != ""))).getD "-"

/-- The table of errors, if there are any. -/
def errorTable (r : Report) : List Output :=
  if r.errors.isEmpty then []
  else
    [.table "Errors" ["Kind", "Scope", "Error"]
      ((r.errors.take maxRows).map fun e => [e.kind, scopeOf e, e.error])]

/-- The line on the graph, if there is one. -/
def graphLine (r : Report) : List Output :=
  match r.graph with
  | none => []
  | some g =>
    let m := g.metrics
    [.markup
      (s!"Dependency graph: {m.nodes} nodes, {m.edges} edges, " ++
        s!"{m.cycles} cycles, max depth {m.maxDepth}")]

/-- The features of a run with their states, by their names. -/
def featureText (r : Report) : String :=
  let pairs := r.features.map fun (f, s) => (f.name, s.name)
  Text.join ", " ((pairs.mergeSort fun a b => decide (a.1 ≤ b.1)).map fun p => p.1 ++ "=" ++ p.2)

/-- The summary of a report. -/
def summary (r : Report) : Output :=
  let m := r.metrics
  let languages :=
    if m.languagesAnalyzed.isEmpty then "none" else Text.join ", " m.languagesAnalyzed
  .panel "Summary"
    ("Files: " ++ toString m.totalFiles ++ " | Violations: " ++ toString m.totalFindings ++
      " | Cross-language: " ++ toString r.crossFindings.length ++ " | Languages: " ++ languages ++
      " | Time: " ++ seconds m.executionTime ++ "\n[dim]" ++ featureText r ++ "[/dim]")
    (if r.hasCritical then "red" else "green")

/-- A report as tables, in front of a reply. -/
def showReport (r : Report) (next : Reply) : Reply :=
  .after [languageTable r] <|
    .showing (findingTable "Violations" r.findings) <|
      .showing (findingTable "Cross-language violations" r.crossFindings) <|
        .after (errorTable r ++ graphLine r ++ [summary r]) next

/-! ## Runtimes -/

/-- A text, or something else if it is missing or empty. -/
def orElse (s : Option String) (fallback : String) : String :=
  (s.filter (· != "")).getD fallback

/-- The row of a runtime. -/
def runtimeRow (l : Launcher) (i : RuntimeInfo) : List String :=
  [i.name, Text.join ", " i.languages,
    if i.usable then "[green]ready[/green]"
    else "[red]" ++ orElse i.error "unavailable" ++ "[/red]",
    orElse i.version "-", orElse i.path (if i.native then "in-process" else "-"),
    if i.usable then "" else l.suggestion i.name]

/-- The table of runtimes. -/
def runtimeTable (l : Launcher) (known : List (String × RuntimeInfo)) : Output :=
  .table "Runtimes" ["Runtime", "Languages", "Status", "Version", "Path", "Suggestion"]
    (known.map fun k => runtimeRow l k.2)

end Console
end CrossAudit
