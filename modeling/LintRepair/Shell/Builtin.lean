import LintRepair.Shell.Running

/-!
Commands of the shell itself: what they are given, how their options are read and how they print.
-/
namespace LintRepair.Shell
open LintRepair.System

structure Call where
  host : Host
  flags : Flags := {}
  name : String
  words : List String

abbrev Builtin := Call → Action Nat

structure BuiltinKind where
  isSpecial : Bool := false
  isRegular : Bool := true
  sets : Bool := false
deriving DecidableEq, Repr

def builtinKinds : List (String × BuiltinKind) :=
  ([".", ":", "break", "continue", "eval", "exec", "exit", "return", "set", "shift", "times",
    "trap", "unset"].map fun n => (n, { isSpecial := true })) ++
  (["export", "readonly", "local"].map fun n => (n, { isSpecial := true, sets := true })) ++
  [("alias", { sets := true })] ++
  (["bg", "cd", "chdir", "command", "false", "fg", "getopts", "hash", "jobs", "kill", "pwd",
    "read", "true", "type", "ulimit", "umask", "unalias", "wait"].map fun n =>
      (n, ({} : BuiltinKind))) ++
  (["echo", "printf", "test", "["].map fun n => (n, { isRegular := false }))

def programDirectories : List (List String) :=
  [["bin"], ["sbin"], ["usr", "bin"], ["usr", "sbin"], ["usr", "local", "bin"],
    ["usr", "local", "sbin"]]

def isProgramPlace (key : List String) : Bool := programDirectories.contains key.dropLast

/-- A text in quotes as the shell would read it. `fuel` bounds its characters. -/
def quotedText : Nat → List Char → List Char
  | 0, _ => []
  | fuel + 1, cs =>
    let rest := cs.dropWhile (· ≠ '\'')
    let start := '\'' :: cs.takeWhile (· ≠ '\'') ++ ['\'']
    if rest.isEmpty then start
    else
      let more := rest.dropWhile (· = '\'')
      start ++ ('"' :: rest.takeWhile (· = '\'') ++ ['"']) ++
        if more.isEmpty then [] else quotedText fuel more

def inQuotes (s : String) : String := String.ofList (quotedText (s.length + 1) s.toList)

namespace Action

def print (s : String) : Action Nat := do
  if s = "" then return 0
  else
    match ← ask (Program.write 1 (ByteText.toBytes s)) with
    | .ok () => return 0
    | .error _ => do
      complain (((← get).command.getD "") ++ ": I/O error")
      return 1

/-- The letters of options in a word, behind its dash, and the words behind it. Options that take a
value are followed by a colon among those known. What was found comes in reverse. -/
def lettersIn (known : List Char) :
    List (Char × String) → List Char → List String → Action (List (Char × String) × List String)
  | found, [], words => return (found, words)
  | found, c :: cs, words =>
    match known.dropWhile (· ≠ c) with
    | [] => fail ("Illegal option -" ++ String.ofList [c])
    | _ :: ':' :: _ =>
      if c = ':' then fail "Illegal option -:"
      else if !cs.isEmpty then return ((c, String.ofList cs) :: found, words)
      else
        match words with
        | [] => fail ("No arg for -" ++ String.ofList [c] ++ " option")
        | w :: words => return ((c, w) :: found, words)
    | _ =>
      if c = ':' then fail "Illegal option -:"
      else lettersIn known ((c, "") :: found) cs words

/-- The options at the start of some words, and the words behind them. `fuel` bounds the words. -/
def optionsIn (known : List Char) : Nat → List (Char × String) → List String →
    Action (List (Char × String) × List String)
  | 0, found, words => return (found.reverse, words)
  | fuel + 1, found, words =>
    match words with
    | [] => return (found.reverse, [])
    | w :: more =>
      match w.toList with
      | ['-', '-'] => return (found.reverse, more)
      | '-' :: c :: cs => do
        let (found, more) ← lettersIn known found (c :: cs) more
        optionsIn known fuel found more
      | _ => return (found.reverse, w :: more)

def options (known : String) (words : List String) :
    Action (List (Char × String) × List String) :=
  optionsIn known.toList (words.length + 1) [] words

end Action
end LintRepair.Shell
