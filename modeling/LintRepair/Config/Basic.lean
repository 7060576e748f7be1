import LintRepair.Config.Error
import LintRepair.Text.Trim

/-!
A project's configuration: its values, their defaults, and what makes them usable.
-/
namespace LintRepair

structure LintCommands where
  command : List String := ["cargo", "clippy"]
  /-- Explains a code put behind it; without words there are no explanations. -/
  explain : List String := ["rustc", "--explain"]
deriving DecidableEq, Repr

structure AgentChoice where
  backend : Backend
  model : String
  maxTokens : UInt32 := 4096
deriving DecidableEq, Repr

/-- The command that formats a source unless another is named. -/
def defaultFormat : List String := ["cargo", "fmt"]

/-- A configuration. Sizes and spans are words of 64 bits. -/
structure Config where
  maxIterations : UInt32
  lintTimeout : UInt64
  agentTimeout : UInt64
  outputLimit : UInt64 := 1000000
  source : Path := ⟨"src/main.rs"⟩
  logIterations : Bool := true
  lint : LintCommands := {}
  format : List String := defaultFormat
  agent : AgentChoice
deriving DecidableEq, Repr

def isCommand : List String → Bool
  | [] => false
  | program :: _ => !isBlankText program

namespace Config

def fault? (c : Config) : Option Fault :=
  if c.maxIterations = 0 then some .noIterations
  else if c.lintTimeout = 0 then some .noLintTimeout
  else if c.agentTimeout = 0 then some .noAgentTimeout
  else if c.outputLimit = 0 then some .noOutputLimit
  else if !c.source.isInside then some .strayingSource
  else if !isCommand c.lint.command then some .noLintCommand
  else if !isCommand c.format then some .noFormatCommand
  else if isBlankText c.agent.model then some .noModel
  else if c.agent.maxTokens = 0 then some .noTokens
  else none

def validate (c : Config) : Except SetupError Unit :=
  match c.fault? with
  | none => .ok ()
  | some f => .error (.invalid f)

end Config
end LintRepair
