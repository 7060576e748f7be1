import LintRepair.Config.File
import LintRepair.Project.Plan

/-!
What the check of a configuration ensures. The settings that the service is asked with are checked
once more, but they ask for nothing that the configuration and the lookup of the key have not
ensured before.
-/
namespace LintRepair

/-- A configuration that has nothing wrong with it. -/
structure Config.Usable (c : Config) : Prop where
  iterations : c.maxIterations ≠ 0
  lintTimeout : c.lintTimeout ≠ 0
  agentTimeout : c.agentTimeout ≠ 0
  outputLimit : c.outputLimit ≠ 0
  source : c.source.isInside = true
  lint : isCommand c.lint.command = true
  format : isCommand c.format = true
  model : isBlankText c.agent.model = false
  tokens : c.agent.maxTokens ≠ 0

namespace Config

variable {c : Config} {t : Tree} {base : List String} {p : Path}

theorem fault?_eq_none_iff : c.fault? = none ↔ c.Usable := by
  have passed {P : Prop} [Decidable P] {f : Fault} {others : Option Fault} :
      (if P then some f else others) = none ↔ ¬ P ∧ others = none := by
    split <;> simp [*]
  unfold fault?
  simp only [passed, Bool.not_eq_true', Bool.not_eq_false, Bool.not_eq_true, and_true]
  constructor
  · rintro ⟨iterations, lintTimeout, agentTimeout, outputLimit, source, lint, format, model, tokens⟩
    exact ⟨iterations, lintTimeout, agentTimeout, outputLimit, source, lint, format, model, tokens⟩
  · rintro ⟨iterations, lintTimeout, agentTimeout, outputLimit, source, lint, format, model, tokens⟩
    exact ⟨iterations, lintTimeout, agentTimeout, outputLimit, source, lint, format, model, tokens⟩

theorem validate_eq_ok_iff : c.validate = .ok () ↔ c.Usable := by
  rw [← fault?_eq_none_iff, validate]
  cases c.fault? <;> simp

end Config

end LintRepair
