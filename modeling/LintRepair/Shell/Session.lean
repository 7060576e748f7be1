import LintRepair.Shell.Token
import LintRepair.Tools.Basic
import LintRepair.Tools.Number

/-!
What a shell knows while it runs, and the steps that it takes. A step may ask the system, change
what the shell knows, and break off; what it has changed until then stays.
-/
namespace LintRepair.Shell
open LintRepair.System

structure Variable where
  value? : Option String := none
  isExported : Bool := false
  isReadOnly : Bool := false
deriving DecidableEq, Repr

inductive Skip where
  | none
  | break (loops : Nat)
  | continue (loops : Nat)
  | return (hasStatus : Bool)
deriving DecidableEq, Repr

inductive Stop where
  | failed
  | left
  | ended
deriving DecidableEq, Repr

structure Job where
  number : Nat
  processes : List Nat
  wasAsked : Bool := false
deriving DecidableEq, Repr

/-- A function: the line where it starts, and what it does. -/
structure Function where
  line : Nat
  body : Script

structure Session where
  name : String := "sh"
  words : List String := []
  vars : List (String × Variable) := []
  /-- The variables of functions at work as they were before, the innermost first. -/
  locals : List (List (String × Option Variable)) := []
  functions : List (String × Function) := []
  replacements : List (String × String) := []
  options : List Char := []
  traps : List (Nat × String) := []
  caught : List Nat := []
  status : Nat := 0
  outputStatus : Nat := 0
  finalStatus : Option Nat := Option.none
  line : Nat := 0
  lineRead : Nat := 1
  command : Option String := Option.none
  skip : Skip := .none
  loops : Nat := 0
  depth : Nat := 0
  traceTo : Nat := 2
  isTracing : Bool := false
  jobs : List Job := []
  endings : List (Nat × Ending) := []
  process : Nat := 0
  parent : Nat := 0
  lastJob : Option Nat := Option.none
  documents : List (Nat × Word) := []
  freshDocument : Nat := 0
  /-- Where the words of options are gone through: the word and the letter in it. -/
  optionIndex : Nat := 1
  optionOffset : Option Nat := Option.none
  found : List (String × String) := []
  directory : String := ""
  mask : Nat := 18

abbrev Action := ExceptT Stop (StateT Session Program)

structure Flags where
  isTested : Bool := false
  isLast : Bool := false
deriving DecidableEq, Repr, Inhabited

/-- What a shell is surrounded by: itself, for scripts inside scripts, and the programs there are. -/
structure Host where
  run : Script → Flags → Action Nat
  program? : String → Option Tools.Tool

namespace Session

def has (s : Session) (c : Char) : Bool := s.options.contains c

def lookup? (s : Session) (name : String) : Option Variable := s.vars.lookup name

def value? (s : Session) (name : String) : Option String := (s.lookup? name).bind (·.value?)

def withVariable (s : Session) (name : String) (v : Option Variable) : Session :=
  { s with vars := (v.map fun v => (name, v)).toList ++ s.vars.filter (·.1 ≠ name) }

/-- The session with a variable as it was kept; a dash stands for the options. -/
def withKept (s : Session) (name : String) (v : Option Variable) : Session :=
  if name = "-" then { s with options := ((v.bind (·.value?)).getD "").toList }
  else
    let s := s.withVariable name v
    if name = "PATH" then { s with found := [] } else s

def separators (s : Session) : String := (s.value? "IFS").getD " \t\n"

def environment (s : Session) : List (String × String) :=
  s.vars.filterMap fun v => if v.2.isExported then v.2.value?.map fun x => (v.1, x) else none

end Session

namespace Action

def ask {α : Type} (p : Program α) : Action α := fun s next => p fun a => next (.ok a, s)

def attempt {α : Type} (p : Action α) : Action (Except Stop α) := fun s => do
  let (r, s) ← (p.run).run s
  return (.ok r, s)

def proceed {α : Type} (r : Except Stop α) : Action α := fun s => pure (r, s)

def complain (what : String) : Action Unit := do
  let s ← get
  let before := s.name ++ ": " ++ toString s.line ++ ": " ++
    (match s.command with
      | some c => c ++ ": "
      | none => "")
  ask (Program.say 2 (before ++ what ++ "\n"))

def fail {α : Type} (what : String) : Action α := do
  complain what
  modify fun s => { s with status := 2 }
  throw .failed

def noNumber {α : Type} (w : String) : Action α := fail ("Illegal number: " ++ w)

def number (w : String) : Action Nat := do
  let r := Tools.scanNumber true w.toList
  if r.isThere && r.rest.all Tools.isByteBlank && 0 ≤ r.value && r.value ≤ 2147483647 then
    return r.value.toNat
  else noNumber w

def setVariable (name : String) (value : Option String) (exports readOnly : Bool := false) :
    Action Unit := do
  if !isName name then fail (name ++ ": bad variable name")
  else
    let s ← get
    let old := (s.lookup? name).getD {}
    if old.isReadOnly then fail (name ++ ": is read only")
    else
      let new : Variable :=
        { value? := value, isExported := old.isExported || exports || s.has 'a'
          isReadOnly := readOnly }
      set (s.withVariable name (some new))
      if name = "OPTIND" then
        let start := ((value.bind (·.toNat?)).getD 1)
        modify fun s => { s with optionIndex := max start 1, optionOffset := none }
      if name = "PATH" then modify fun s => { s with found := [] }

def markVariable (name : String) (exports readOnly : Bool) : Action Unit := do
  if !isName name then fail (name ++ ": bad variable name")
  else
    let s ← get
    let old := (s.lookup? name).getD {}
    set (s.withVariable name (some { old with
      isExported := old.isExported || exports, isReadOnly := old.isReadOnly || readOnly }))

def unsetVariable (name : String) : Action Unit := do
  let s ← get
  match s.lookup? name with
  | none => if isName name then pure () else fail (name ++ ": bad variable name")
  | some v =>
    if v.isReadOnly then fail (name ++ ": is read only")
    else set (s.withVariable name none)

def keepVariable (name : String) : Action Unit := modify fun s =>
  match s.locals with
  | [] => s
  | frame :: more =>
    if frame.any (·.1 = name) then s
    else { s with locals := ((name, s.lookup? name) :: frame) :: more }

def pushLocals : Action Unit := modify fun s => { s with locals := [] :: s.locals }

/-- Bringing variables back until so many functions are at work. `fuel` bounds them. -/
def popLocals (depth : Nat) : Nat → Action Unit
  | 0 => return
  | fuel + 1 => do
    let s ← get
    match s.locals with
    | [] => return
    | frame :: more =>
      if s.locals.length ≤ depth then return
      else
        let restored := frame.foldl (fun (s : Session) v => s.withKept v.1 v.2) s
        set { restored with locals := more }
        popLocals depth fuel

end Action
end LintRepair.Shell
