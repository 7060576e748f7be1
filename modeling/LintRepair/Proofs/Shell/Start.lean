import LintRepair.Proofs.System.Kernel
import LintRepair.Proofs.Project.Closed
import LintRepair.Shell.Start

/-!
What starting a program does. Whatever it is told to do, files stay in directories. More time changes
nothing for a program that ends within less, and lets the others only print more.
-/
namespace LintRepair.Shell
open LintRepair.System

variable {k : Kernel} {cwd : List String} {timeout timeout' : Nat} {tool : Program Nat}

theorem runTool_closed (closed : k.tree.Closed) : (runTool k cwd timeout tool).2.Closed :=
  (Kernel.runs_run _ stepLimit _).closed closed

theorem programs_keepsClosed (environment : List (String × String)) :
    (programs environment).KeepsClosed := by
  intro words base q t closed
  unfold programs
  split
  · exact closed
  split
  · exact closed
  split
  · dsimp only
    split
    · exact closed
    split
    · exact closed
    split
    · exact closed
    · exact runTool_closed closed
  all_goals exact closed

theorem runTool_of_le (le : timeout ≤ timeout') :
    runTool k cwd timeout' tool = runTool k cwd timeout tool ∨
      (runTool k cwd timeout tool).1.ending = .timedOut ∧
        (runTool k cwd timeout tool).1.stdout.flatten <+:
          (runTool k cwd timeout' tool).1.stdout.flatten ∧
        (runTool k cwd timeout tool).1.stderr.flatten <+:
          (runTool k cwd timeout' tool).1.stderr.flatten := by
  unfold runTool
  dsimp only
  generalize ({ k with tasks := _ } : Kernel) = start
  rcases Kernel.run_of_le (Nat.mul_le_mul_right 1000 le) stepLimit start with same | ⟨at_work, more⟩
  · left
    rw [same]
  · right
    obtain ⟨fuel, goes_on⟩ := more
    have printed := (Kernel.runs_run (some (timeout' * 1000)) fuel
      (start.run (some (timeout * 1000)) stepLimit).2).printed
    rw [goes_on]
    refine ⟨if_pos at_work, ?_, ?_⟩
    · rw [List.flatten_singleton, List.flatten_singleton]
      exact Kernel.printed_of_suffix printed .out
    · rw [List.flatten_singleton, List.flatten_singleton]
      exact Kernel.printed_of_suffix printed .err

theorem systemTree_closed : systemTree.Closed := by
  have parents : (systemTree.entries.all fun e =>
      systemTree.get? e.1.dropLast = some .directory) = true := by decide +kernel
  exact .of_entries fun e mem => by simpa using List.all_eq_true.mp parents e mem

end LintRepair.Shell
