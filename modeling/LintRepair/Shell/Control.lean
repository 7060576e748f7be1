import LintRepair.Shell.Lookup
import LintRepair.Shell.Redirecting

/-!
Commands of the shell that steer it: leaving loops, functions and the shell, running other texts,
and going to other directories.
-/
namespace LintRepair.Shell
open LintRepair.System

def leaveLoops (skip : Nat → Skip) : Builtin := fun c => do
  let n ← match c.words with
    | [] => pure 1
    | w :: _ => do
      let n ← Action.number w
      if n = 0 then Action.noNumber w else pure n
  let s ← get
  if s.loops > 0 then set { s with skip := skip (min n s.loops) }
  return 0

def leaveFunction : Builtin := fun c => do
  match c.words with
  | [] => do
    modify fun s => { s with skip := .return false }
    return (← get).status
  | w :: _ => do
    let n ← Action.number w
    modify fun s => { s with skip := .return true }
    return n

def exit : Builtin := fun c => do
  match c.words with
  | [] => throw .left
  | w :: _ => do
    let n ← Action.number w
    modify fun s => { s with finalStatus := some n }
    throw .left

def eval : Builtin := fun c => do
  if c.words.isEmpty then return 0
  else Action.runText c.host { isTested := c.flags.isTested } (" ".intercalate c.words)

namespace Action

def readFile (path : String) : Action String := do
  let fd ← openNamed path { readable := true }
  let bytes ← collect fd Tools.roundLimit []
  ask (Program.close fd)
  return ByteText.ofBytes bytes

def joinedPath (base path : String) : String :=
  let start := if path.startsWith "/" then [] else Text.split '/' base.toList
  let steps := start ++ Text.split '/' path.toList
  let names := steps.foldl (fun (names : List (List Char)) step =>
    if step.isEmpty || step = ['.'] then names
    else if step = ['.', '.'] then names.tail
    else step :: names) []
  "/" ++ String.ofList (['/'].intercalate names.reverse)

/-- Going to a directory. The answer is false if that can not be. -/
def goTo (isPhysical : Bool) (path : String) : Action Bool := do
  let s ← get
  let goal := if isPhysical then path else joinedPath s.directory path
  match ← ask (Program.enter goal) with
  | .error _ => return false
  | .ok () => do
    let here ← if isPhysical then ask Program.whereabouts else pure goal
    setVariable "OLDPWD" (some s.directory) true
    modify fun s => { s with directory := here }
    setVariable "PWD" (some here) true
    return true

/-- Going to the first directory of some that is there. The answer tells where. -/
def goToFirst (isPhysical : Bool) : List String → Action (Option String)
  | [] => return none
  | path :: more => do
    match ← ask (Program.look path) with
    | .ok { kind := .directory, .. } =>
      return if ← goTo isPhysical path then some path else none
    | _ => goToFirst isPhysical more

def isFixed (path : String) : Bool :=
  path.startsWith "/" || path = "." || path.startsWith "./" || path = ".." || path.startsWith "../"

end Action

def source : Builtin := fun c => do
  let (_, words) ← Action.options "" c.words
  match words with
  | [] => return 0
  | name :: _ => do
    let path ← if name.contains '/' then pure name
      else
        match ← Action.firstFile (pathsOf (← Action.searchPath) name) (.file .notFound) with
        | .ok p => pure p
        | .error _ => Action.fail (name ++ ": not found")
    let text ← Action.readFile path
    modify fun s => { s with command := some path }
    let status ← Action.runText c.host {} text
    modify fun s =>
      match s.skip with
      | .return _ => { s with skip := .none }
      | _ => s
    return status

def cd : Builtin := fun c => do
  let (found, words) ← Action.options "LP" c.words
  let isPhysical := (found.getLast?.map (·.1)) = some 'P'
  let s ← get
  let isBack : Bool := words.head? = some "-"
  let goal := match words with
    | [] => (s.value? "HOME").getD ""
    | w :: _ => if isBack then (s.value? "OLDPWD").getD "" else w
  let tells : Bool ← if Action.isFixed goal then
      if ← Action.goTo isPhysical goal then pure isBack
      else Action.fail ("can't cd to " ++ goal)
    else
      let name := if goal = "" then "." else goal
      let places := pathsOf ((s.value? "CDPATH").getD "") name
      match ← Action.goToFirst isPhysical places with
      | some p => pure (isBack || p ≠ name)
      | none =>
        if ← Action.goTo isPhysical goal then pure isBack
        else Action.fail ("can't cd to " ++ goal)
  if tells then Action.print ((← get).directory ++ "\n") else return 0

def pwd : Builtin := fun c => do
  let (found, _) ← Action.options "LP" c.words
  let isPhysical := (found.getLast?.map (·.1)) = some 'P'
  let path ← if isPhysical then Action.ask Program.whereabouts else pure (← get).directory
  Action.print (path ++ "\n")

def umask : Builtin := fun c => do
  let (found, words) ← Action.options "S" c.words
  let mask := (← get).mask
  match words with
  | [] =>
    let allowed := fun (shift : Nat) =>
      let bits := 7 - mask / shift % 8
      String.ofList (("rwx".toList.zip [4, 2, 1]).filterMap fun b =>
        if bits / b.2 % 2 = 1 then some b.1 else none)
    if found.isEmpty then
      Action.print (String.ofList ('0' :: Tools.octalDigits mask) ++ "\n")
    else
      Action.print ("u=" ++ allowed 64 ++ ",g=" ++ allowed 8 ++ ",o=" ++ allowed 1 ++ "\n")
  | w :: _ =>
    if w.toList.head?.any Char.isDigit then
      if w.toList.all (Tools.isDigitOf 8) then
        modify fun s => { s with mask := Tools.digitsValue 8 w.toList % 512 }
        return 0
      else Action.noNumber w
    else Action.fail ("Illegal mode: " ++ w)

def ulimit : Builtin := fun c => do
  let (found, words) ← Action.options "HSatfdsmcnlpvwr" c.words
  if !words.isEmpty || found.any (·.1 = 'a') then return 0
  else Action.print (if found.any (·.1 = 'c') then "0\n" else "unlimited\n")

def times : Builtin := fun _ =>
  Action.print "0m0.000000s 0m0.000000s\n0m0.000000s 0m0.000000s\n"

/-- Becomes another program; without one only redirections count. -/
def exec : Builtin := fun c => do
  match c.words with
  | [] => return 0
  | name :: words => Action.becomeProgram c.host (← Action.searchPath) name words

end LintRepair.Shell
