/-!
Scripts of the command language: words that are still to be filled in, redirections, and commands
put together by sequence, conditions, choice, loops, pipes, groups, functions and jobs in the
background.
-/
namespace LintRepair.Shell

inductive Handling where
  | value
  | orWord
  | insteadWord
  | orFailure
  | orAssigned
  | withoutEnd (longest : Bool)
  | withoutStart (longest : Bool)
  | length
  /-- Each word of the shell is a field of its own, as if all were in quotes. -/
  | words
  | unknown
deriving DecidableEq, Repr

inductive Opening where
  | read
  | readAndWrite
  | write
  | overwrite
  | append
deriving DecidableEq, Repr

mutual

inductive Part where
  | text (cs : List Char) (quoted : Bool)
  | quote
  /-- The value of a parameter. If `filled` an empty value counts as missing. -/
  | parameter (name : String) (handling : Handling) (filled : Bool) (word : List Part)
  | output (script : Option Script)
  | sum (word : List Part)

inductive Redirection where
  | file (fd : Nat) (opening : Opening) (name : List Part)
  | same (fd : Nat) (other : Option Nat)
  | named (fd : Nat) (word : List Part)
  /-- To a text inside the script, by its number, which may be filled in first. -/
  | document (fd number : Nat) (isFilled : Bool)

inductive Script where
  /-- Variables set for a command on a line of the script, the words of the command, redirections. -/
  | simple (line : Nat) (settings words : List (List Part)) (redirections : List Redirection)
  | sequence (steps : List Script)
  | both (a b : Script)
  | either (a b : Script)
  | negated (a : Script)
  | pipeline (stages : List Script) (background : Bool)
  | background (line : Nat) (a : Script) (redirections : List Redirection)
  | subshell (line : Nat) (a : Script) (redirections : List Redirection)
  | redirected (line : Nat) (a : Script) (redirections : List Redirection)
  | choice (condition yes : Script) (no : Option Script)
  | loop (well : Bool) (condition body : Script)
  | each (line : Nat) (name : String) (words : List (List Part)) (body : Script)
  | select (line : Nat) (word : List Part) (arms : List (List (List Part) × Option Script))
  | define (name : String) (line : Nat) (body : Script)

end

abbrev Word := List Part

instance : Inhabited Script := ⟨.sequence []⟩

def plainStart : Word → List Char
  | .text cs false :: _ => cs
  | _ => []

/-- The text of a word that has nothing to be filled in, without its quotation marks. -/
def Part.literal : Part → List Char
  | .text cs _ => cs
  | _ => []

/-- The text of a word that has nothing to be filled in, without its quotation marks. -/
def literal (w : Word) : String := String.ofList (w.flatMap Part.literal)

/-- The parts with all words of the shell between quotes that hold nothing else as one part. -/
def joinWords : Bool → List Part → List Part
  | false, .quote :: .parameter "@" .value false w :: .quote :: ps =>
    .parameter "@" .words false w :: joinWords false ps
  | inQuotes, .quote :: ps => .quote :: joinWords (!inQuotes) ps
  | inQuotes, p :: ps => p :: joinWords inQuotes ps
  | _, [] => []

def allWords : Word := [.parameter "@" .words false []]

def isPlain : Word → Bool
  | [.text _ false] => true
  | _ => false

def isNameStart (c : Char) : Bool := c.isAlpha || c = '_'

def isNameChar (c : Char) : Bool := c.isAlphanum || c = '_'

def nameIn (cs : List Char) : List Char :=
  match cs with
  | [] => []
  | c :: _ => if isNameStart c then cs.takeWhile isNameChar else []

def isName (s : String) : Bool := s ≠ "" && nameIn s.toList = s.toList

def isSetting (w : Word) : Bool :=
  let cs := plainStart w
  let name := nameIn cs
  !name.isEmpty && (cs.drop name.length).head? = some '='

end LintRepair.Shell
