import LintRepair.Text.Split
import LintRepair.Text.Trim

/-!
Lines of a text. A line ends at a line feed; one carriage return right before that line feed
belongs to the line end. The rest behind the last line feed is a line only if it is not empty, and
keeps its carriage returns.
-/
namespace LintRepair.Text

def pieces (cs : List Char) : List (List Char) := split '\n' cs

def joinLines (ls : List (List Char)) : List Char := join '\n' ls

/-- A piece before a line feed, without the carriage return that belongs to the line end. -/
def dropCarriageReturn (l : List Char) : List Char :=
  if l.getLast? = some '\r' then l.dropLast else l

def linesOfPieces : List (List Char) → List (List Char)
  | [] => []
  | [l] => if l.isEmpty then [] else [l]
  | l :: m :: ls => dropCarriageReturn l :: linesOfPieces (m :: ls)

def lines (cs : List Char) : List (List Char) := linesOfPieces (pieces cs)

@[simp] theorem lines_nil : lines [] = [] := rfl

end LintRepair.Text
