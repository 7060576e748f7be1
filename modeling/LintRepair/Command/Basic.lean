import LintRepair.Files.Path

/-!
What a command is run with, and what a lint command leaves.
-/
namespace LintRepair

structure CommandRequest where
  workdir : Path
  /-- In milliseconds. -/
  timeout : Nat
  outputLimit : Nat
deriving DecidableEq, Repr

/-- The output of a lint command. The diagnostics are in `stderr`. -/
structure LintOutput where
  stdout : String
  stderr : String
  success : Bool
deriving DecidableEq, Repr

end LintRepair
