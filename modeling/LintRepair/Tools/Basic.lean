import LintRepair.System.Process

/-!
Tools: the small programs that commands are made of. A tool is given its words and its environment
and ends with a status. What went wrong it tells behind its own name.
-/
namespace LintRepair.Tools
open LintRepair.System

structure Invocation where
  name : String
  words : List String
  environment : List (String × String) := []

abbrev Tool := Invocation → Program Nat

def roundLimit : Nat := 4000000

def Invocation.complain (i : Invocation) (what : String) : Program Unit :=
  .say 2 (i.name ++ ": " ++ what ++ "\n")

def Invocation.fail {α : Type} (i : Invocation) (status : Nat) (what : String) : Program α := do
  i.complain what
  .exit status

def Invocation.refer {α : Type} (i : Invocation) (status : Nat) : Program α := do
  .say 2 ("Try '" ++ i.name ++ " --help' for more information.\n")
  .exit status

/-- Printing; a failure to do so ends the tool with a status. -/
def Invocation.printOr (i : Invocation) (status : Nat) (bytes : List UInt8) : Program Unit := do
  if bytes.isEmpty then return
  else
    match ← Program.write 1 bytes with
    | .ok () => return
    | .error e => i.fail status ("write error: " ++ e.reason)

def Invocation.print (i : Invocation) (s : String) : Program Unit :=
  i.printOr 1 (ByteText.toBytes s)

def octalDigits (n : Nat) : List Char :=
  [n / 64 % 8, n / 8 % 8, n % 8].map fun d => Char.ofNat (48 + d)

def isShown (c : Char) : Bool := ' ' ≤ c && c < '\x7f'

def escaped (c : Char) : List Char :=
  match c with
  | '\x07' => ['\\', 'a']
  | '\x08' => ['\\', 'b']
  | '\t' => ['\\', 't']
  | '\n' => ['\\', 'n']
  | '\x0b' => ['\\', 'v']
  | '\x0c' => ['\\', 'f']
  | '\r' => ['\\', 'r']
  | c => '\\' :: octalDigits c.toNat

/-- A word in single quotes, in which backslashes stand before quotes and backslashes. -/
def quoted (s : String) : String :=
  "'" ++ String.ofList (s.toList.flatMap fun c =>
    if c = '\'' || c = '\\' then ['\\', c] else if isShown c then [c] else escaped c) ++ "'"

def isHarmless (c : Char) : Bool := c.isAlphanum || "%+,-./:]_@".toList.contains c

/-- The rest of a word in single quotes as a shell would read it. While `open'` characters that can
not be shown are written. -/
def shellText (open' : Bool) : List Char → List Char
  | [] => []
  | c :: cs =>
    if c = '\'' then '\'' :: '\\' :: '\'' :: '\'' :: shellText false cs
    else if isShown c then
      if open' then '\'' :: '\'' :: c :: shellText false cs else c :: shellText false cs
    else if open' then escaped c ++ shellText true cs
    else '\'' :: '$' :: '\'' :: (escaped c ++ shellText true cs)

def shellQuoted (s : String) : String :=
  let cs := s.toList
  let start := cs.head?.any fun c => c = '#' || c = '~'
  let plain := (if start then cs.tail else cs).all fun c => isHarmless c || c = ' ' || c = '\''
  if cs.contains '\'' && plain then "\"" ++ s ++ "\""
  else "'" ++ String.ofList (shellText false cs) ++ "'"

def shellWord (s : String) : String :=
  let cs := s.toList
  let isSafe := fun c => isHarmless c || c = '#' || c = '~' || c = '\x7b' || c = '\x7d'
  let bad := s = "" || s = "\x7b" || s = "\x7d" || cs.head? = some '#' || cs.head? = some '~'
  if !bad && cs.all isSafe then s else shellQuoted s

/-- The name of a file, in quotes if a shell would need them or if it holds a colon. -/
def shellName (s : String) : String :=
  if s.toList.contains ':' then shellQuoted s else shellWord s

/-- Reading all that is left of a descriptor. The parts come in reverse; `fuel` bounds them. -/
def readAll (fd : Nat) : Nat → List (List UInt8) → Program (Except Refusal (List UInt8))
  | 0, _ => .hang
  | fuel + 1, parts => do
    match ← Program.read fd 65536 with
    | .error e => return .error e
    | .ok part =>
      if part.isEmpty then return .ok parts.reverse.flatten
      else readAll fd fuel (part :: parts)

/-- Opening a file for reading; a dash stands for the input. -/
def openInput (name : String) : Program (Except Refusal Nat) := do
  if name = "-" then return .ok 0 else Program.openFile name { readable := true }

def closeInput (name : String) (fd : Nat) : Program Unit :=
  if name = "-" then pure () else Program.close fd

end LintRepair.Tools
