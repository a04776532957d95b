import CrossAudit.Pass.Basic
import CrossAudit.Text.Search

/-!
# Security patterns

Flags injection sinks, hardcoded secrets and unsafe deserialization.  Of several findings of one
rule on one line only the first is kept.
-/

namespace CrossAudit
namespace Pass
namespace Security

open Syntax

/-! ## Vocabulary -/

/-- Calls. -/
def callKinds : List String := ["call", "call_expression"]

/-- Binary operations. -/
def concatKinds : List String := ["binary_operator", "binary_expression"]

/-- Functions that run SQL. -/
def sqlSinks : List String := ["execute", "executemany", "raw", "query", "executescript"]

/-- Functions that open or remove a file. -/
def fileSinks : List String :=
  ["open", "remove", "unlink", "rmdir", "readFile", "readFileSync", "writeFile", "writeFileSync",
    "createReadStream"]

/-- Functions that may run a shell. -/
def shellCalls : List String := ["run", "call", "Popen", "check_output", "check_call"]

/-- Texts that mark a secret as not real. -/
def dummies : List String :=
  ["your_key_here", "xxx", "***", "placeholder", "example", "test", "dummy", "changeme"]

/-- Dangerous functions of Python and the rules they break. -/
def pythonDangers : List (String × String) :=
  [("eval", "code-injection"), ("exec", "code-injection"), ("compile", "code-injection"),
    ("__import__", "code-injection"), ("system", "command-injection"),
    ("popen", "command-injection"), ("spawn", "command-injection")]

/-- Dangerous functions of TypeScript and JavaScript and the rules they break. -/
def ecmaDangers : List (String × String) :=
  [("eval", "code-injection"), ("exec", "command-injection"), ("execSync", "command-injection"),
    ("spawn", "command-injection"), ("spawnSync", "command-injection")]

/-- How to mend each rule. -/
def fixes : List (String × String) :=
  [("sql-injection",
      "Use parameterized queries with placeholders instead of building SQL strings"),
    ("command-injection",
      "Pass arguments as a list and never route user input through a shell"),
    ("code-injection", "Replace dynamic evaluation with an explicit dispatch table or parser"),
    ("hardcoded-secret", "Load secrets from the environment or a secret manager"),
    ("unsafe-deserialization", "Use json, or yaml.safe_load(), for data from untrusted sources"),
    ("path-traversal",
      "Resolve the path and check it stays inside an allowed base directory")]

/-- A finding of this pass. -/
def flag (d : Document) (place : Position) (message severity rule : String) : Finding :=
  finding "security" d.path place message severity rule (fixes.lookup rule)

/-! ## Calls -/

/-- The function that a call calls and the object it is called on. -/
def callee (d : Document) (call : Cursor) : Option (String × Option String) :=
  match call.kept.head? with
  | none => none
  | some function =>
    if function.kind == "identifier" then some (d.text function, none)
    else if function.kind == "attribute" || function.kind == "member_expression" then
      match function.kept with
      | first :: second :: more =>
        some (d.text ((second :: more).getLast?.getD second), some (d.text first))
      | _ => none
    else none

/-- The arguments of a call. -/
def arguments (call : Cursor) : List Cursor :=
  ((call.kept.find? fun c => c.kind == "argument_list" || c.kind == "arguments").map
    Cursor.kept).getD []

/-- The first positional argument of a call. -/
def firstArgument? (call : Cursor) : Option Cursor :=
  (arguments call).find? fun c => c.kind != "keyword_argument" && c.kind != "comment"

/-- The text of a keyword argument. -/
def keyword? (d : Document) (call : Cursor) (name : String) : Option String :=
  (arguments call).findSome? fun c =>
    match c.kind, c.kept with
    | "keyword_argument", first :: second :: more =>
      if d.text first == name then some (d.text ((second :: more).getLast?.getD second)) else none
    | _, _ => none

/-- How a string is put together at run time, if it is. -/
def dynamicString? (d : Document) (c : Cursor) (tainted : List String) : Option String :=
  if concatKinds.contains c.kind && Text.contains (d.text c) "+" then some "string concatenation"
  else if c.kind == "string" && c.kept.any (·.kind == "interpolation") then some "f-string"
  else if c.kind == "template_string" && c.kept.any (·.kind == "template_substitution") then
    some "template string"
  else if callKinds.contains c.kind && (callee d c).any (fun f => f.1 == "format") then
    some ".format()"
  else if c.kind == "identifier" && tainted.contains (d.text c) then some "tainted variable"
  else none

/-- The variables that are assigned a string put together at run time. -/
def taintedNames (d : Document) : List String :=
  (d.nodesOf ["assignment", "variable_declarator"]).filterMap fun c =>
    match c.kept with
    | target :: second :: more =>
      let value := (second :: more).getLast?.getD second
      if target.kind == "identifier" && (dynamicString? d value []).isSome then
        some (d.text target)
      else none
    | _ => none

/-- The findings on a call. -/
def ofCall (d : Document) (tainted : List String) (call : Cursor) : List Finding :=
  match callee d call with
  | none => []
  | some (name, receiver) =>
    let isPython := d.language == "python"
    let place := call.location.start
    let first := firstArgument? call
    let danger :=
      match (if isPython then pythonDangers else ecmaDangers).lookup name with
      | some rule =>
        [flag d place s!"Unsafe use of '{name}()' with potential user input" "critical" rule]
      | none => []
    let shell :=
      if isPython && shellCalls.contains name && keyword? d call "shell" == some "True" then
        [flag d place "subprocess called with shell=True" "warning" "command-injection"]
      else []
    let sql :=
      match (first.filter fun _ => sqlSinks.contains name).bind (dynamicString? d · tainted) with
      | some how =>
        [flag d place s!"Potential SQL injection via {how}" "critical" "sql-injection"]
      | none => []
    let file :=
      if fileSinks.contains name && (first.bind (dynamicString? d · [])).isSome then
        [flag d place "Potential path traversal if path comes from user input" "suggestion"
          "path-traversal"]
      else []
    let pickle :=
      if receiver == some "pickle" && (name == "load" || name == "loads") then
        [flag d place "Unsafe deserialization with pickle on untrusted data" "warning"
          "unsafe-deserialization"]
      else []
    let loader := (keyword? d call "Loader").getD ""
    let yaml :=
      if receiver == some "yaml" && name == "load" && !Text.endsWith loader "SafeLoader" &&
          !Text.endsWith loader "BaseLoader" then
        [flag d place "yaml.load() without SafeLoader" "warning" "unsafe-deserialization"]
      else []
    danger ++ shell ++ sql ++ file ++ pickle ++ yaml

/-! ## Secrets -/

/-- A kind of secret: the names it is assigned to, its least length, and what it is called. -/
structure SecretRule where
  names : List String
  least : Nat
  label : String

/-- The kinds of secrets. -/
def secretRules : List SecretRule :=
  [⟨["api_key", "api-key", "apikey"], 10, "API Key"⟩, ⟨["password"], 1, "Password"⟩,
    ⟨["secret"], 10, "Secret"⟩, ⟨["token"], 10, "Token"⟩,
    ⟨["aws_access_key_id"], 1, "AWS Access Key"⟩, ⟨["private_key"], 1, "Private Key"⟩]

/-- The quoted text that is assigned in front: a sign, a quote, the text and a quote. -/
def assigned? (least : Nat) (cs : List Char) : Option (List Char × List Char) :=
  match cs.dropWhile Text.isBlank with
  | sign :: rest =>
    if sign == '=' || sign == ':' then
      match rest.dropWhile Text.isBlank with
      | opening :: rest =>
        let value := rest.takeWhile fun c => !Text.isQuote c
        match rest.dropWhile fun c => !Text.isQuote c with
        | _ :: after =>
          if Text.isQuote opening && least ≤ value.length then some (value, after) else none
        | [] => none
      | [] => none
    else none
  | [] => none

/-- Recognises a secret and gives its value. -/
def secret (rule : SecretRule) (cs : List Char) : Option (Nat × List Char) :=
  rule.names.findSome? fun name =>
    ((Chars.afterFolded? name.toList cs).bind (assigned? rule.least)).map fun (value, after) =>
      (cs.length - after.length, value)

/-- Whether a value may be a real secret. -/
def isPlausible (value : List Char) : Bool :=
  8 ≤ value.length && !dummies.any fun w => Chars.occursIn w.toList (Chars.lower value)

/-- The line and column of a character. -/
def placeOf (cs : List Char) (offset : Nat) : Position :=
  let before := cs.take offset
  ⟨(before.filter (· == '\n')).length + 1, (Chars.lastPiece '\n' before).length + 1⟩

/-- The findings on hardcoded secrets. -/
def secrets (d : Document) : List Finding :=
  let cs := d.fullText.toList
  secretRules.flatMap fun rule =>
    ((Chars.findAll (secret rule) cs).filter fun m => isPlausible m.value).map fun m =>
      flag d (placeOf cs m.start) ("Hardcoded " ++ rule.label ++ " found") "critical"
        "hardcoded-secret"

/-! ## Findings -/

/-- Everything that the pass sees, before repetitions are dropped. -/
def all (d : Document) : List Finding :=
  let tainted := taintedNames d
  (d.nodesOf callKinds).flatMap (ofCall d tainted) ++ secrets d

/-- Adds a finding, unless its line already has one of its rule. -/
def addFirst (kept : List Finding) (f : Finding) : List Finding :=
  if kept.any fun g => g.line == f.line && g.rule == f.rule then kept else kept ++ [f]

/-- The findings on a document. -/
def run (d : Document) : List Finding :=
  (all d).foldl addFirst []

end Security
end Pass
end CrossAudit
