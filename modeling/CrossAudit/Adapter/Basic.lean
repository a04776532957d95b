import CrossAudit.Adapter.EcmaScript
import CrossAudit.Adapter.Python
import CrossAudit.Language
import CrossAudit.Syntax.Pattern

/-!
# Language adapters

An adapter turns the documents of one language into declarations.  There are three; what differs
between them is dispatched here.
-/

namespace CrossAudit

/-- The languages that are analyzed in process. -/
inductive Adapter where
  | python
  | typescript
  | javascript
  deriving Repr, DecidableEq, Inhabited

namespace Adapter

open Syntax

/-- The language of an adapter. -/
def language : Adapter → String
  | .python => "python"
  | .typescript => "typescript"
  | .javascript => "javascript"

/-- The extensions of an adapter, in increasing order. -/
def extensions : Adapter → List String
  | .python => [".py", ".pyi"]
  | .typescript => [".cts", ".mts", ".ts", ".tsx"]
  | .javascript => [".cjs", ".js", ".jsx", ".mjs"]

/-- All adapters. -/
def all : List Adapter :=
  [.python, .typescript, .javascript]

/-- The adapter of a language. -/
def ofLanguage? (language : String) : Option Adapter :=
  all.find? fun a => a.language == language

/-- The node kinds of an adapter's grammar. -/
def vocabulary : Adapter → Vocabulary
  | .python => Python.vocabulary
  | .typescript => EcmaScript.vocabulary
  | .javascript => { EcmaScript.vocabulary with interfaces := [] }

/-- Whether a file is an adapter's, by its extension. -/
def supports (a : Adapter) (path : String) : Bool :=
  a.extensions.contains (Language.extensionOf path)

/-- The grammar that a file is parsed with; only TypeScript has a second one, for files with
markup. -/
def grammarFor (a : Adapter) (path : String) : String :=
  if a == .typescript && Language.extensionOf path == ".tsx" then "tsx" else "default"

/-- Why a declaration could not be read. -/
inductive Fault where
  | url (fault : EcmaScript.UrlFault)
  | definitionMissing
  deriving Repr, DecidableEq

/-- The wording of a fault. -/
def Fault.message : Fault → String
  | .url f => f.message
  | .definitionMissing => "'NoneType' object has no attribute 'type'"

/-! ## Nodes -/

/-- The name of a node. -/
def nameOf? (a : Adapter) (d : Document) (c : Cursor) : Option String :=
  match a with
  | .python => d.nameOf? c
  | _ => EcmaScript.nameOf? d c

/-- The roles that a node can play. -/
inductive Aspect where
  | isClass
  | isFunction
  | isMethod
  | isInterface
  | isImport
  | isLoop
  | isConditional
  deriving Repr, DecidableEq

/-- Whether a node plays a role. -/
def plays (a : Adapter) (d : Document) (c : Cursor) : Aspect → Bool
  | .isClass => a.vocabulary.classes.contains c.kind
  | .isFunction => a.vocabulary.functions.contains c.kind
  | .isMethod => a.vocabulary.isMethod c
  | .isInterface =>
    match a with
    | .python => Python.isInterface d c
    | _ => a.vocabulary.interfaces.contains c.kind
  | .isImport => a.vocabulary.imports.contains c.kind
  | .isLoop => a.vocabulary.loops.contains c.kind
  | .isConditional => a.vocabulary.conditionals.contains c.kind

/-- The documentation of a node.  A decorated definition is documented by what it decorates. -/
def documentation (a : Adapter) (d : Document) (c : Cursor) : Except Fault (Option String) :=
  match a with
  | .python =>
    if c.kind == "decorated_definition" then
      match c.role? "definition" with
      | some definition => .ok (Python.docstring d definition)
      | none => .error .definitionMissing
    else .ok (Python.docstring d c)
  | _ => .ok (EcmaScript.docComment d c)

/-- Cyclomatic complexity of a node. -/
def complexity (a : Adapter) (c : Cursor) : Nat :=
  a.vocabulary.complexity c

/-- The nodes from a place on that match a pattern. -/
def find (a : Adapter) (d : Document) (start : Cursor) (p : Pattern) : List Cursor :=
  start.walk.filter (p.accepts (a.nameOf? d))

/-! ## Declarations -/

/-- The functions of a file. -/
def functions : Adapter → Document → List FunctionDecl
  | .python => Python.functions
  | _ => EcmaScript.functions

/-- The classes of a file. -/
def classes : Adapter → Document → List ClassDecl
  | .python => Python.classes
  | _ => EcmaScript.classes

/-- The interfaces of a file. -/
def interfaces : Adapter → Document → List InterfaceDecl
  | .python => Python.interfaces
  | .typescript => EcmaScript.interfaces
  | .javascript => fun _ => []

/-- The imports of a file. -/
def imports : Adapter → Document → List ImportDecl
  | .python => Python.imports
  | _ => EcmaScript.imports

/-- The exports of a file. -/
def exports : Adapter → Document → List ExportDecl
  | .python => Python.exports
  | _ => EcmaScript.exports

/-- The routes of a file. -/
def endpoints : Adapter → Document → List EndpointDecl
  | .python => Python.endpoints
  | _ => EcmaScript.endpoints

/-- The requests of a file. -/
def apiCalls : Adapter → Document → Except Fault (List ApiCall)
  | .python => fun d => .ok (Python.apiCalls d)
  | _ => fun d => (EcmaScript.apiCalls d).mapError .url

end Adapter
end CrossAudit
