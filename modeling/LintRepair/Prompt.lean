import LintRepair.Diagnostic.Basic
import LintRepair.Text.Trim

/-!
The prompt that asks for a repair: the source, the diagnostics in a compiler's own layout, what is
known about their codes, and the rules for the answer.
-/
namespace LintRepair

structure RepairRequest where
  path : String
  source : String
  diagnostics : List Diagnostic
  explanations : List Explanation
deriving DecidableEq, Repr

namespace RepairRequest

def sourceSection (r : RepairRequest) : String :=
  "<source path=\"" ++ r.path ++ "\">\n```rust\n" ++ trimmed r.source ++ "\n```\n</source>\n"

def diagnosticsSection (r : RepairRequest) : String :=
  "<diagnostics count=\"" ++ toString r.diagnostics.length ++ "\">\n" ++
    String.join (r.diagnostics.map fun d => d.render ++ "\n") ++ "</diagnostics>"

def explanationSection (e : Explanation) : String :=
  "<explanation code=\"" ++ e.code ++ "\">\n" ++ trimmed e.text ++ "\n</explanation>\n"

/-- The explanations between their tags; nothing if there is none. -/
def explanationsSection (r : RepairRequest) : String :=
  match r.explanations with
  | [] => ""
  | es => "\n\n<explanations>\n" ++ String.join (es.map explanationSection) ++ "</explanations>"

def rules (r : RepairRequest) : String :=
  "Requirements:\n- Fix all errors\n- Follow basic Rust idioms\n" ++
    "- Focus on simplicity over abstraction\n\n" ++
    "Return the complete corrected contents of `" ++ r.path ++
    "` in a single ```rust code block.\n" ++
    "Keep comments on the changes you made brief and inside the code."

def prompt (r : RepairRequest) : String :=
  r.sourceSection ++ "\nFix this Rust code that has the following compiler errors:\n\n" ++
    r.diagnosticsSection ++ r.explanationsSection ++ "\n\n" ++ r.rules

end RepairRequest
end LintRepair
