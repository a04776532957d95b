import CrossAudit.Text.Casing
import CrossAudit.Text.PathName

/-!
# Languages

Which language a file is written in, by its extension, and which runtime analyzes a language.
Several languages may share one runtime.
-/

namespace CrossAudit
namespace Language

/-- The language of each known extension. -/
def extensions : List (String × String) :=
  [(".py", "python"), (".pyi", "python"), (".ts", "typescript"), (".tsx", "typescript"),
    (".mts", "typescript"), (".cts", "typescript"), (".js", "javascript"), (".jsx", "javascript"),
    (".mjs", "javascript"), (".cjs", "javascript"), (".go", "go"), (".rs", "rust"),
    (".java", "java"), (".kt", "kotlin"), (".cs", "csharp"), (".cpp", "cpp"), (".hpp", "cpp"),
    (".c", "c"), (".h", "c")]

/-- The runtime of each language that does not go by the language's own name. -/
def runtimes : List (String × String) :=
  [("python", "python"), ("typescript", "ecmascript"), ("javascript", "ecmascript"), ("go", "go"),
    ("rust", "rust"), ("java", "java")]

/-- The extension of a path in lower case. -/
def extensionOf (path : String) : String :=
  Text.lower (PathName.ofString path).suffix

/-- The language of a path. -/
def ofPath? (path : String) : Option String :=
  extensions.lookup (extensionOf path)

/-- The runtime that analyzes a language. -/
def runtimeOf (language : String) : String :=
  (runtimes.lookup language).getD language

end Language
end CrossAudit
