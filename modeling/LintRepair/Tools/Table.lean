import LintRepair.Tools.Arrange
import LintRepair.Tools.Condition
import LintRepair.Tools.List
import LintRepair.Tools.Print
import LintRepair.Tools.Real
import LintRepair.Tools.Search
import LintRepair.Tools.Show
import LintRepair.Tools.Translate

/-!
The tools by their names, and waiting.
-/
namespace LintRepair.Tools
open LintRepair.System

/-- A span of time as a word gives it, in microseconds, rounded up; none for one without end. -/
def span? (word : String) : Option (Option Nat) :=
  match readReal? .extended word.toList with
  | none => none
  | some r =>
    let unit := match r.rest with
      | [] | ['s'] => some 1
      | ['m'] => some 60
      | ['h'] => some 3600
      | ['d'] => some 86400
      | _ => none
    match unit, r.value with
    | none, _ => none
    | some u, ⟨isNegative, .finite m e⟩ =>
      if isNegative && m > 0 then none
      else
        let (n, d) := quotientOf (m * u * 1000000) e
        some (some ((n + d - 1) / d))
    | some _, ⟨isNegative, .infinite⟩ => if isNegative then none else some none
    | some _, ⟨_, .notANumber⟩ => none

def sleep : Tool := fun i => do
  let s ← i.sorted { letters := [], names := [("help", .nothing, 'h'), ("version", .nothing, 'V')] } 1
  if s.operands.isEmpty then missingOperand i "missing operand"
  else
    let bad := s.operands.filter fun w => (span? w).isNone
    bad.forM fun w => i.complain ("invalid time interval " ++ quoted w)
    if !bad.isEmpty then i.refer 1
    else
      let spans := s.operands.filterMap span?
      if spans.any (·.isNone) then .hang
      else
        Program.pass (spans.foldl (fun n s => n + s.getD 0) 0)
        return 0

def all : List (String × Tool) :=
  [("true", fun _ => return 0), ("false", fun _ => return 1), ("echo", echo), ("printf", printf),
    ("test", test), ("[", bracket), ("cat", cat), ("head", head), ("ls", ls), ("tr", tr),
    ("sleep", sleep), ("grep", grep), ("rm", rm), ("mkdir", mkdir), ("touch", touch), ("cp", cp),
    ("mv", mv)]

end LintRepair.Tools
