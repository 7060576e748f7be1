import LintRepair.Agent.Repair
import LintRepair.Command.Basic
import LintRepair.Diagnostic.Extract

/-!
The parts of a repair loop: the collaborators it calls, what it tells them, and how it can end.
Passes, repairs and versions are counted in words of 32 bits, as the budget is.
-/
namespace LintRepair

structure Version where
  number : UInt32
  text : String
deriving DecidableEq, Repr

def Version.first (text : String) : Version := ⟨0, text⟩

def Version.next (v : Version) (text : String) : Version := ⟨v.number + 1, text⟩

structure LoopPlan where
  request : CommandRequest
  maxIterations : UInt32
deriving DecidableEq, Repr

/-- One lint pass: its number, the version that was linted, the output and what was found in it. -/
structure Pass where
  iter : UInt32
  version : UInt32
  lint : LintOutput
  diagnostics : List Diagnostic
deriving DecidableEq, Repr

structure Cycle where
  pass : Pass
  repair : Option Repair
deriving DecidableEq, Repr

inductive Stop where
  | converged (iterations : UInt32)
  | exceeded (maxIterations : UInt32) (remaining : Nat)
deriving DecidableEq, Repr

structure LoopOutcome where
  repairs : UInt32
  stop : Stop
deriving DecidableEq, Repr

inductive LoopError (ε : Type) where
  | read (e : ε)
  | lint (e : ε)
  /-- The source from before the repair could not be put back after a failed lint. -/
  | restore (e : ε)
  | repair (e : ε)
  | write (e : ε)
deriving DecidableEq, Repr

def LoopError.layers {ε : Type} (layers : ε → List Layer) : LoopError ε → List Layer
  | .read e => .text "read source" :: layers e
  | .lint e => .text "run lint command" :: layers e
  | .restore e => .text "restore committed source" :: layers e
  | .repair e => .text "request repair" :: layers e
  | .write e => .text "write candidate source" :: layers e

/-- The collaborators of a loop. Each call takes a state and gives its answer and the state after
it, so an answer may depend on all that happened before. -/
structure Collaborators (σ ε : Type) where
  path : String
  read : σ → Except ε String × σ
  write : String → σ → Except ε Unit × σ
  lint : CommandRequest → σ → Except ε LintOutput × σ
  explain : String → CommandRequest → σ → Except ε (Option String) × σ
  format : CommandRequest → σ → Except ε Unit × σ
  repair : RepairRequest → σ → Except ε Repair × σ
  report : Cycle → σ → σ
  record : Cycle → σ → σ

end LintRepair
