import LintRepair.Agent.Backend
import LintRepair.Error
import LintRepair.Files.Path

/-!
What can be wrong with a setup before any work begins.
-/
namespace LintRepair

inductive Fault where
  | noIterations
  | noLintTimeout
  | noAgentTimeout
  | noOutputLimit
  | strayingSource
  | noLintCommand
  | noFormatCommand
  | noModel
  | noTokens
  | noAgentModel
  | noAgentTokens
  | noRequestTimeout
deriving DecidableEq, Repr

def Fault.message : Fault → String
  | .noIterations => "max_iterations must be > 0"
  | .noLintTimeout => "lint_timeout_secs must be > 0"
  | .noAgentTimeout => "agent_timeout_secs must be > 0"
  | .noOutputLimit => "output_limit_bytes must be > 0"
  | .strayingSource => "source_path must be a non-empty path inside the project"
  | .noLintCommand => "lint.command must be a non-empty array"
  | .noFormatCommand => "format.command must be a non-empty array"
  | .noModel => "agent.model must not be empty"
  | .noTokens => "agent.max_tokens must be > 0"
  | .noAgentModel => "agent model must not be empty"
  | .noAgentTokens => "agent max_tokens must be > 0"
  | .noRequestTimeout => "agent timeout must be > 0"

inductive Misfit where
  | missingField (name : String)
  | unknownBackend (name : String)
  | malformed
deriving DecidableEq, Repr

def Misfit.detail? : Misfit → Option String
  | .missingField name => some ("missing field `" ++ name ++ "`")
  | .unknownBackend name => some ("unknown variant `" ++ name ++ "`, expected `" ++
      "` or `".intercalate (Backend.all.map Backend.name) ++ "`")
  | .malformed => none

inductive SetupError where
  | missingConfig (p : Path)
  | unreadable (p : Path) (m : Misfit)
  | invalid (f : Fault)
  | missingKey (b : Backend)
deriving DecidableEq, Repr

def SetupError.layers : SetupError → List Layer
  | .missingConfig p => [.text ("missing config " ++ p.text ++ " (run `fixloop init`)")]
  | .unreadable p _ => [.text ("parse config " ++ p.text), .toml]
  | .invalid f => [.text ("invalid config: " ++ f.message)]
  | .missingKey b =>
    [.text ("missing API key: set " ++ b.keyVariable ++ " in the environment or .env")]

end LintRepair
