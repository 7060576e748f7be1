import LintRepair.Shell.Script

/-!
The text of a script while it is read, and what its smallest parts are.
-/
namespace LintRepair.Shell

inductive Token where
  | ending
  | lineEnd
  | semicolon
  | background
  | both
  | either
  | pipe
  | opening
  | closing
  | armEnd
  | redirection
  | word
  | keyNot
  | keyCase
  | keyDo
  | keyDone
  | keyElif
  | keyElse
  | keyEsac
  | keyFi
  | keyFor
  | keyIf
  | keyIn
  | keyThen
  | keyUntil
  | keyWhile
  | keyOpen
  | keyClose
deriving DecidableEq, Repr, Inhabited

namespace Token

def keywords : List (String × Token) :=
  [("!", keyNot), ("case", keyCase), ("do", keyDo), ("done", keyDone), ("elif", keyElif),
    ("else", keyElse), ("esac", keyEsac), ("fi", keyFi), ("for", keyFor), ("if", keyIf),
    ("in", keyIn), ("then", keyThen), ("until", keyUntil), ("while", keyWhile),
    ("\x7b", keyOpen), ("\x7d", keyClose)]

def operators : List (Token × String) :=
  [(ending, "end of file"), (lineEnd, "newline"), (semicolon, "\";\""), (background, "\"&\""),
    (both, "\"&&\""), (either, "\"||\""), (pipe, "\"|\""), (opening, "\"(\""),
    (closing, "\")\""), (armEnd, "\";;\""), (redirection, "redirection"), (word, "word")]

def name (t : Token) : String :=
  match operators.lookup t with
  | some s => s
  | none =>
    match keywords.find? (·.2 = t) with
    | some (s, _) => "\"" ++ s ++ "\""
    | none => ""

def endsList (t : Token) : Bool :=
  [ending, closing, armEnd, keyDo, keyDone, keyElif, keyElse, keyEsac, keyFi, keyThen,
    keyClose].contains t

end Token

/-- A text inside a script that is still to be read: its number, the line that ends it, whether tabs
at the start of lines are left out and whether it is filled in. -/
structure Document where
  number : Nat
  mark : List Char
  noTabs : Bool
  isFilled : Bool
deriving DecidableEq, Repr

inductive Arrow where
  | file (o : Opening)
  | same
  | document (noTabs : Bool)
deriving DecidableEq, Repr

/-- A word that is replaced while it is read: up to where the text that is left is no shorter than
`limit` the word is not replaced again. -/
structure Expanding where
  name : String
  limit : Nat
  goesOn : Bool
deriving DecidableEq, Repr

structure Source where
  rest : List Char
  line : Nat := 1
  isBack : Bool := false
  token : Token := .ending
  /-- What the last token holds if it is a word, and whether something in it is quoted. -/
  word : Word := []
  isQuoted : Bool := false
  fd : Nat := 0
  arrow : Arrow := .same
  /-- How the next token is read: without line ends, with the words of the language, with words
  replaced, as the end line of a document. -/
  skipsLines : Bool := false
  seesKeywords : Bool := false
  replaces : Bool := false
  isMark : Bool := false
  waiting : List Document := []
  documents : List (Nat × Word) := []
  fresh : Nat := 0
  replacements : List (String × String) := []
  expanding : List Expanding := []

structure ScriptError where
  line : Nat
  what : String
deriving DecidableEq, Repr

abbrev Reader := StateT Source (Except ScriptError)

namespace Reader

def fail {α : Type} (what : String) : Reader α := fun s => .error ⟨s.line, what⟩

/-- The last token is not expected here; something else may be. -/
def unexpected {α : Type} (wanted : Option Token) : Reader α := fun s =>
  .error ⟨s.line, s.token.name ++ " unexpected" ++
    (match wanted with
      | some t => " (expecting " ++ t.name ++ ")"
      | none => "")⟩

def joined (line : Nat) : List Char → Nat × List Char
  | '\\' :: '\n' :: cs => joined (line + 1) cs
  | cs => (line, cs)

def unbroken (s : Source) : Source :=
  match s.rest with
  | '\\' :: '\n' :: _ =>
    let (line, rest) := joined s.line s.rest
    { s with line := line, rest := rest }
  | _ => s

def join : Reader Unit := modify unbroken

def peek? : Reader (Option Char) := do
  join
  return (← get).rest.head?

def drop : Reader Unit := modify fun s => { s with rest := s.rest.tail }

def take? (c : Char) : Reader Bool := do
  if (← peek?) = some c then
    drop
    return true
  else return false

def newLine : Reader Unit := modify fun s => { s with line := s.line + 1 }

def back : Reader Unit := modify fun s => { s with isBack := true }

end Reader
end LintRepair.Shell
