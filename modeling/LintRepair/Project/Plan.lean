import LintRepair.Agent.Settings
import LintRepair.Config.Basic
import LintRepair.Loop.Basic
import LintRepair.Project.Layout

/-!
What a configuration means for the loop in a project and for the service that is asked.
-/
namespace LintRepair

/-- Seconds in milliseconds. -/
def seconds (n : UInt64) : Nat := n.toNat * 1000

def LoopPlan.ofConfig (root : Path) (c : Config) : LoopPlan :=
  { request := ⟨root, seconds c.lintTimeout, c.outputLimit.toNat⟩
    maxIterations := c.maxIterations }

def Config.journal? (c : Config) (root : Path) : Option Path :=
  if c.logIterations then some (Layout.of root).iterations else none

def Settings.ofConfig (c : Config) (key : String) (baseUrl : Option String) : Settings :=
  { backend := c.agent.backend
    model := c.agent.model
    key := key
    maxTokens := c.agent.maxTokens
    timeout := seconds c.agentTimeout
    baseUrl := baseUrl }

end LintRepair
