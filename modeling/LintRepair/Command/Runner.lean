import LintRepair.Command.Run
import LintRepair.Config.Basic
import LintRepair.Text.Quoted
import LintRepair.Text.Utf8

/-!
The commands of a project at work: finding errors, explaining their codes, formatting.
-/
namespace LintRepair

structure Toolchain where
  lint : List String
  format : List String
  explain : List String := []
deriving DecidableEq, Repr

def Toolchain.ofConfig (c : Config) : Toolchain := ⟨c.lint.command, c.format, c.lint.explain⟩

inductive ToolError where
  | notRun (e : CommandError)
  /-- The time in milliseconds was up. -/
  | timedOut (words : List String) (timeout : Nat)
  | failed (words : List String) (code : Option Nat) (stderr : String)
deriving DecidableEq, Repr

def ToolError.layers : ToolError → List Layer
  | .notRun e => e.layers
  | .timedOut words timeout =>
    [.text ("`" ++ commandText words ++ "` timed out after " ++ spanText timeout)]
  | .failed words code stderr =>
    [.text ("`" ++ commandText words ++ "` failed with status " ++
      (match code with
        | none => "None"
        | some n => "Some(" ++ toString n ++ ")") ++ ": " ++ stderr)]

namespace Toolchain

def runToEnd (programs : Programs) (base words : List String) (q : CommandRequest) (t : Tree) :
    Except ToolError CommandOutput × Tree :=
  match runCommand programs base words q t with
  | (.error e, t₁) => (.error (.notRun e), t₁)
  | (.ok output, t₁) =>
    if output.ending = .timedOut then (.error (.timedOut words q.timeout), t₁)
    else (.ok output, t₁)

def lintOutput (o : CommandOutput) : LintOutput :=
  ⟨lossyText o.stdout.kept, lossyText o.stderr.kept, o.success⟩

/-- Linting. A lint command that finds errors may end as it likes. -/
def runLint (c : Toolchain) (programs : Programs) (base : List String) (q : CommandRequest)
    (t : Tree) : Except ToolError LintOutput × Tree :=
  match runToEnd programs base c.lint q t with
  | (.error e, t₁) => (.error e, t₁)
  | (.ok output, t₁) => (.ok (lintOutput output), t₁)

def runFormat (c : Toolchain) (programs : Programs) (base : List String) (q : CommandRequest)
    (t : Tree) : Except ToolError Unit × Tree :=
  match runToEnd programs base c.format q t with
  | (.error e, t₁) => (.error e, t₁)
  | (.ok output, t₁) =>
    if output.success then (.ok (), t₁)
    else (.error (.failed c.format output.code? (trimmed (lossyText output.stderr.kept))), t₁)

/-- The explanation in what is kept of a run: none if the command failed or said nothing. -/
def explanationIn (o : CommandOutput) : Option String :=
  let text := trimmed (lossyText o.stdout.kept)
  if o.success && text ≠ "" then some text else none

def runExplain (c : Toolchain) (programs : Programs) (base : List String) (code : String)
    (q : CommandRequest) (t : Tree) : Except ToolError (Option String) × Tree :=
  if c.explain.isEmpty then (.ok none, t)
  else
    match runToEnd programs base (c.explain ++ [code]) q t with
    | (.error e, t₁) => (.error e, t₁)
    | (.ok output, t₁) => (.ok (explanationIn output), t₁)

end Toolchain
end LintRepair
