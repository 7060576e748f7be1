import LintRepair.Shell.Builtin
import LintRepair.Tools.Condition

/-!
Conditions as the shell itself judges them. A word counts as an operator only where its place allows
one; what is left behind a whole condition is a failure only if it has more than one word.
-/
namespace LintRepair.Shell
open LintRepair.System

inductive Role where
  | unary
  | binary
  | not
  | both
  | either
  | opening
  | closing
deriving DecidableEq, Repr

def unaryOperators : List String :=
  ["-r", "-w", "-x", "-e", "-f", "-d", "-c", "-b", "-p", "-u", "-g", "-k", "-s", "-t", "-z", "-n",
    "-h", "-O", "-G", "-L", "-S"]

def binaryOperators : List String :=
  ["=", "!=", "<", ">", "-eq", "-ne", "-gt", "-ge", "-lt", "-le", "-nt", "-ot", "-ef"]

def roleOf? (w : String) : Option Role :=
  if unaryOperators.contains w then some .unary
  else if binaryOperators.contains w then some .binary
  else [("!", Role.not), ("-a", .both), ("-o", .either), ("(", .opening), (")", .closing)].lookup w

def roleAt? (words : List String) : Option Role :=
  match words with
  | [] => none
  | w :: more =>
    match roleOf? w, more with
    | some .unary, [] => none
    | some .unary, [_] => some .unary
    | some .unary, next :: _ => if roleOf? next = some .binary then none else some .unary
    | some .opening, [] => none
    | role, _ => role

namespace Action

def nonsense {α : Type} (w what : String) : Action α :=
  fail (if w = "" then what else w ++ ": " ++ what)

def wholeNumber (w : String) : Action Int := do
  let r := Tools.scanNumber true w.toList
  if r.isThere && r.rest.all Tools.isByteBlank && Tools.fits r.value then return r.value
  else noNumber w

def lookAt (path : String) : Action (Option Channel) := do
  return (← ask (Program.look path)).toOption

def isExecutable (c : Channel) : Bool :=
  match c.kind, c.file? with
  | .directory, _ => true
  | .file _, some key => isProgramPlace key
  | _, _ => false

def judgeUnary (op w : String) : Action Bool := do
  match op with
  | "-z" => return w = ""
  | "-n" => return w ≠ ""
  | "-t" => do
    let _ ← wholeNumber w
    return false
  | op =>
    match ← lookAt w with
    | none => return false
    | some c =>
      match op, c.kind with
      | "-e", _ | "-r", _ | "-w", _ | "-O", _ | "-G", _ => return true
      | "-x", _ => return isExecutable c
      | "-f", .file _ => return true
      | "-d", .directory => return true
      | "-c", .device => return true
      | "-p", .pipe => return true
      | "-s", .file n => return n > 0
      | "-s", .directory => return true
      | _, _ => return false

def judgeBinary (op a b : String) : Action Bool := do
  match op with
  | "=" => return a = b
  | "!=" => return a ≠ b
  | "<" => return a < b
  | ">" => return b < a
  | "-nt" | "-ot" => return false
  | "-ef" =>
    match ← lookAt a, ← lookAt b with
    | some x, some y => return x.file?.isSome && x.file? = y.file?
    | _, _ => return false
  | op => do
    let x ← wholeNumber a
    let y ← wholeNumber b
    return match op with
      | "-eq" => x = y
      | "-ne" => x ≠ y
      | "-gt" => x > y
      | "-ge" => x ≥ y
      | "-lt" => x < y
      | _ => x ≤ y

mutual

/-- A single condition, whose first word has a role. The answer is also the words from its last one
on. `fuel` bounds the words. -/
def judgeTerm : Nat → Option Role → List String → Action (Bool × List String)
  | 0, _, words => return (false, words)
  | fuel + 1, role?, words =>
    match role?, words with
    | _, [] => return (false, [])
    | some .not, w :: more => do
      if more.isEmpty then
        let (r, _) ← judgeTerm fuel none []
        return (!r, [w])
      else
        let (r, rest) ← judgeTerm fuel (roleAt? more) more
        return (!r, rest)
    | some .opening, _ :: more => do
      if roleAt? more = some .closing then return (false, more)
      else
        let (r, rest) ← judgeEither fuel (roleAt? more) more
        if roleAt? rest.tail = some .closing then return (r, rest.tail)
        else nonsense "" "closing paren expected"
    | some .unary, op :: more =>
      match more with
      | [] => nonsense op "argument expected"
      | w :: _ => do return (← judgeUnary op w, more)
    | _, a :: more =>
      match roleAt? more, more with
      | some .binary, op :: b :: rest => do return (← judgeBinary op a b, b :: rest)
      | some .binary, op :: [] => nonsense op "argument expected"
      | _, _ => return (a ≠ "", words)

def judgeBoth : Nat → Option Role → List String → Action (Bool × List String)
  | 0, _, words => return (false, words)
  | fuel + 1, role?, words => do
    let (r, rest) ← judgeTerm fuel role? words
    if roleAt? rest.tail = some .both then
      let more := rest.tail.tail
      let (q, rest) ← judgeBoth fuel (roleAt? more) more
      return (r && q, rest)
    else return (r, rest)

def judgeEither : Nat → Option Role → List String → Action (Bool × List String)
  | 0, _, words => return (false, words)
  | fuel + 1, role?, words => do
    let (r, rest) ← judgeBoth fuel role? words
    if roleAt? rest.tail = some .either then
      let more := rest.tail.tail
      let (q, rest) ← judgeEither fuel (roleAt? more) more
      return (r || q, rest)
    else return (r, rest)

end

/-- The judgement on some words, of which three or four are read by their number first. `fuel`
bounds the words. -/
def judgeWords : Nat → List String → Action Bool
  | 0, _ => return false
  | _, [] => return false
  | fuel + 1, words => do
    let whole := fun (role? : Option Role) (words : List String) => do
      let (r, rest) ← judgeEither (4 * words.length + 8) role? words
      match rest with
      | w :: _ :: _ => nonsense w "unexpected operator"
      | _ => return r
    let n := words.length
    if n = 3 && (words[1]?.bind roleOf?) = some .binary then whole none words
    else if n = 3 || n = 4 then
      if words.head? = some "(" && words.getLast? = some ")" then
        let inner := words.tail.dropLast
        whole (roleAt? inner) inner
      else if words.head? = some "!" then return !(← judgeWords fuel words.tail)
      else whole (roleAt? words) words
    else whole (roleAt? words) words

end Action

def test : Builtin := fun c => do
  let words ← if c.name.startsWith "[" then
      if c.words.getLast?.any (·.startsWith "]") then pure c.words.dropLast
      else Action.fail "missing ]"
    else pure c.words
  return if ← Action.judgeWords (words.length + 1) words then 0 else 1

end LintRepair.Shell
