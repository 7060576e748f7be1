import LintRepair.Text.Trim

/-!
The kinds of line in a compiler's report: headers with an error code, location lines, and body
lines (excerpts with a `|`, annotations with a `=`). A header may stand anywhere in its line.
-/
namespace LintRepair.Diagnostic
open Text

structure Header where
  code : List Char
  title : List Char
deriving DecidableEq, Repr

/-- A header at the very start: `error[E`, digits, `]: ` and the title. -/
def headerAt? (cs : List Char) : Option Header := do
  let rest ← after? "error[E".toList cs
  let digits := rest.takeWhile isDigit
  if digits.isEmpty then none
  else
    let title ← after? "]: ".toList (rest.dropWhile isDigit)
    some ⟨'E' :: digits, title⟩

def header? : List Char → Option Header
  | [] => none
  | c :: cs => match headerAt? (c :: cs) with
    | some h => some h
    | none => header? cs

/-- A reversed text that ends in `:`, digits, `:`, digits. -/
def endsInPosition (reversed : List Char) : Bool :=
  let column := reversed.takeWhile isDigit
  match reversed.dropWhile isDigit with
  | ':' :: more =>
    let line := more.takeWhile isDigit
    match more.dropWhile isDigit with
    | ':' :: _ => !column.isEmpty && !line.isEmpty
    | _ => false
  | _ => false

/-- A location line: an arrow, white space, any text, a line and a column number. -/
def isLocation (l : List Char) : Bool :=
  match after? "-->".toList (trimStart l) with
  | some (b :: rest) => isBlank b && endsInPosition (rest.reverse.dropWhile isBlank)
  | _ => false

/-- An excerpt line: at most a line number before a bar. -/
def isExcerpt (l : List Char) : Bool :=
  (((l.dropWhile isBlank).dropWhile isDigit).dropWhile isBlank).head? = some '|'

def isAnnotation (l : List Char) : Bool :=
  (l.dropWhile isBlank).head? = some '='

def isBody (l : List Char) : Bool := isExcerpt l || isAnnotation l

end LintRepair.Diagnostic
