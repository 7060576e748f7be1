import LintRepair.Text.Lines

/-!
Fenced blocks of a reply. A line of blanks and three backticks opens a block, whatever stands
behind them; the first later line that holds a bare fence closes it, and the reading goes on below.
An opening line that nothing closes ends the reading.
-/
namespace LintRepair.Reply
open Text

/-- A fenced block: what stands before and behind the opening backticks, and its lines. -/
structure Fence where
  indent : List Char
  info : List Char
  body : List (List Char)
deriving DecidableEq, Repr

def isIndent (c : Char) : Bool := c = ' ' || c = '\t'

def ticks : List Char := ['`', '`', '`']

def opening? (l : List Char) : Option (List Char × List Char) :=
  (after? ticks (l.dropWhile isIndent)).map fun info => (l.takeWhile isIndent, info)

/-- A bare fence: three backticks, blanks around them, at most one carriage return at the end. -/
def isClosing (l : List Char) : Bool :=
  match after? ticks (l.dropWhile isIndent) with
  | none => false
  | some rest =>
    match rest.dropWhile isIndent with
    | [] => true
    | ['\r'] => true
    | _ => false

def fences : List (List Char) → List Fence
  | [] => []
  | l :: below =>
    match opening? l with
    | none => fences below
    | some (indent, info) =>
      match below.dropWhile (!isClosing ·) with
      | [] => []
      | _ :: _ =>
        ⟨indent, info, below.takeWhile (!isClosing ·)⟩ ::
          fences ((below.dropWhile (!isClosing ·)).drop 1)
termination_by ls => ls.length
decreasing_by
  · simp
  · have h := (List.dropWhile_sublist (!isClosing ·) (l := below)).length_le
    simp only [List.length_drop, List.length_cons] at h ⊢
    omega

/-- The text of a block's body: each of its lines with a line feed. -/
def Fence.text (f : Fence) : List Char := f.body.flatMap (· ++ ['\n'])

/-- The language that the info names: its first word, up to a comma or a brace, in lower case. -/
def Fence.language (f : Fence) : List Char :=
  ((trim f.info).takeWhile fun c => !(c = ',' || c = '\x7b' || isBlank c)).map Char.toLower

def Fence.isUsable (f : Fence) : Bool :=
  f.language = [] || f.language = "rust".toList || f.language = "rs".toList

/-- A line less the indentation of its fence, or less its own if it is indented otherwise. -/
def unindent (indent l : List Char) : List Char :=
  match after? indent l with
  | some rest => rest
  | none => l.dropWhile isIndent

def Fence.dedented (f : Fence) : List Char :=
  if f.indent.isEmpty then f.text
  else joinLines ((lines f.text).map (unindent f.indent))

end LintRepair.Reply
