import LintRepair.CommandLine.Run
import LintRepair.Proofs.Shell.Start

/-!
A call of the program leaves files in directories, whatever it is called with and however it ends,
if the programs that it starts do. Those of the shell do.
-/
namespace LintRepair.CommandLine

variable {u : Surroundings} {w : World}

theorem print_closed (s : String) (closed : w.tree.Closed) : (w.print s).tree.Closed := closed

theorem init_closed (c : Config) (force : Bool) (closed : w.tree.Closed) :
    (init u c force w).2.tree.Closed := by
  have made := closed.initProject u.cwd ⟨"."⟩ c force
  unfold init
  split
  · exact closed
  · split <;> rename_i done <;> rwa [done] at made

theorem run_closed (root : Path) (keeps : u.KeepsClosed) (closed : w.tree.Closed) :
    (run u root w).2.tree.Closed := by
  unfold run
  split
  · exact closed
  · rename_i p _
    have repaired := p.repair_closed keeps closed
    split <;> rename_i done <;> rwa [done] at repaired

theorem extract_closed (file : Option Path) (closed : w.tree.Closed) :
    (extract u file w).2.tree.Closed := by
  unfold extract
  split
  · exact closed
  · exact print_closed _ closed

theorem perform_closed (task : Task) (keeps : u.KeepsClosed) (closed : w.tree.Closed) :
    (perform u w task).2.tree.Closed := by
  unfold perform
  split
  · exact init_closed _ _ closed
  · exact run_closed _ keeps closed
  · exact extract_closed _ closed

theorem keepsClosed_withEnvFile (keeps : u.KeepsClosed) (t : Tree) :
    (u.withEnvFile t).KeepsClosed := by
  unfold Surroundings.withEnvFile
  split <;> exact keeps

theorem call_closed (words : List String) (keeps : u.KeepsClosed) (closed : w.tree.Closed) :
    (call u words w).2.tree.Closed := by
  unfold call
  split
  · exact closed
  · exact closed
  · have performed := perform_closed ‹Task› (keepsClosed_withEnvFile keeps w.tree) closed
    split <;> rename_i done <;> rwa [done] at performed

theorem call_closed_of_shell (words : List String)
    (shell : u.programs = fun environment _ => Shell.programs environment)
    (closed : w.tree.Closed) : (call u words w).2.tree.Closed := by
  refine call_closed words (fun environment started => ?_) closed
  rw [shell]
  exact Shell.programs_keepsClosed environment

end LintRepair.CommandLine
