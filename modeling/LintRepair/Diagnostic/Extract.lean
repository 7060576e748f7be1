import LintRepair.Diagnostic.Basic
import LintRepair.Diagnostic.Line
import LintRepair.Text.Lines

/-!
Reading diagnostics out of a compiler's report. A block is a header line, a location line right
below it and the longest run of body lines below that. Text that fits no block is passed over.
-/
namespace LintRepair.Diagnostic
open Text

def block? (line : List Char) (below : List (List Char)) : Option Diagnostic :=
  match header? line, below with
  | some h, location :: more =>
    let title := trim h.title
    let context := trim (joinLines (more.takeWhile isBody))
    if isLocation location && !title.isEmpty && !context.isEmpty then
      some {
        code := String.ofList h.code
        title := String.ofList title
        location := String.ofList (trim location)
        context := String.ofList context }
    else none
  | _, _ => none

/-- The diagnostics of some lines: after a block the reading goes on below its body. -/
def ofLines : List (List Char) → List Diagnostic
  | [] => []
  | line :: below =>
    match block? line below with
    | some d => d :: ofLines ((below.drop 1).dropWhile isBody)
    | none => ofLines below
termination_by ls => ls.length
decreasing_by
  · have h := (List.dropWhile_sublist isBody (l := below.drop 1)).length_le
    simp only [List.length_drop, List.length_cons] at h ⊢
    omega
  · simp

def extract (report : String) : List Diagnostic := ofLines (lines report.toList)

end LintRepair.Diagnostic
