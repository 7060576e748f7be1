import LintRepair.Shell.Calling

/-!
Running scripts. A script inside another one is run one level further down, where the levels are
counted; a shell that runs out of them is ended.
-/
namespace LintRepair.Shell
open LintRepair.System

inductive Round where
  | next
  | leave
  | leaveFunction (hasStatus : Bool)
deriving DecidableEq, Repr

namespace Action

def setStatus (status : Nat) : Action Unit := modify fun s => { s with status := status }

def endRound : Action Round := do
  let s ← get
  match s.skip with
  | .none => return .next
  | .return hasStatus => return .leaveFunction hasStatus
  | .break n => do
    set { s with skip := if n ≤ 1 then .none else .break (n - 1) }
    return .leave
  | .continue n => do
    set { s with skip := if n ≤ 1 then .none else .continue (n - 1) }
    return if n ≤ 1 then .next else .leave

/-- The rounds of a loop, with the status of the last one. `fuel` bounds them. -/
def rounds (well : Bool) (condition body : Action Nat) : Nat → Nat → Action Nat
  | 0, _ => ask Program.hang
  | fuel + 1, status => do
    let holds ← condition
    let before := (← get).skip
    match ← endRound with
    | .leave => return status
    | .leaveFunction hasStatus => return if hasStatus then holds else status
    | .next =>
      if before ≠ .none then rounds well condition body fuel status
      else if (holds = 0) ≠ well then return status
      else
        let status ← body
        match ← endRound with
        | .next => rounds well condition body fuel status
        | _ => return status

def eachWord (name : String) (body : Action Nat) : Nat → List String → Action Nat
  | status, [] => return status
  | _, w :: words => do
    setVariable name (some w)
    let status ← body
    match ← endRound with
    | .next => eachWord name body status words
    | _ => return status

def inLoop (steps : Action Nat) : Action Nat := do
  modify fun s => { s with loops := s.loops + 1 }
  let status ← steps
  modify fun s => { s with loops := s.loops - 1 }
  return status

def isSkipping : Action Bool := return (← get).skip ≠ .none

def runSteps (host : Host) (f : Flags) : List Script → Action Unit
  | [] => return
  | [a] => do setStatus (← host.run a f)
  | a :: more => do
    let _ ← host.run a { isTested := f.isTested }
    if ← isSkipping then return else runSteps host f more

def fitsAny (host : Host) (text : String) : List Word → Action Bool
  | [] => return false
  | w :: ws => do
    if matches? (← fillPattern host w) text.toList then return true else fitsAny host text ws

def runArms (host : Host) (f : Flags) (text : String) :
    List (List Word × Option Script) → Action Nat
  | [] => return 0
  | (ws, a?) :: more => do
    if ← fitsAny host text ws then
      match a? with
      | some a => host.run a f
      | none => return 0
    else runArms host f text more

def runApart (host : Host) (f : Flags) (isBackground : Bool) (a : Script)
    (rs : List Redirection) : Action Nat := do
  let aims ← rs.mapM (aim host)
  let inside := fun (f : Flags) => do
    let (_, isDone) ← redirect host false aims []
    if isDone then host.run a f else throw .failed
  if !isBackground && f.isLast && !(← hasTraps) then inside f
  else
    let child ← start host isBackground isBackground
      (inside { isTested := f.isTested && !isBackground, isLast := true })
    if isBackground then
      noteJob [child]
      return 0
    else awaitFront [child]

def noteProgram : Script → Action Unit
  | .simple _ _ (w :: _) _ => do
    if isPlain w && isName (literal w) then
      let _ ← meaningOf true (← searchPath) (literal w)
  | _ => return

/-- Starting the stages of a pipeline, of which each reads what the one before it writes. Those that
were started come in reverse. -/
def startStages (host : Host) (f : Flags) (isBackground : Bool) :
    Option Nat → List Nat → List Script → Action (List Nat)
  | _, children, [] => return children.reverse
  | before?, children, a :: more => do
    noteProgram a
    let pipe? ← if more.isEmpty then pure none else some <$> ask Program.pipe
    let child ← start host isBackground (isBackground && children.isEmpty) (do
      match pipe? with
      | some (input, _) => ask (Program.close input)
      | none => pure ()
      match before? with
      | some fd =>
        if fd > 0 then
          let _ ← ask (Program.duplicate fd 0)
          ask (Program.close fd)
      | none => pure ()
      match pipe? with
      | some (_, output) =>
        if output > 1 then
          let _ ← ask (Program.duplicate output 1)
          ask (Program.close output)
      | none => pure ()
      host.run a { f with isLast := true })
    match before? with
    | some fd => ask (Program.close fd)
    | none => pure ()
    match pipe? with
    | some (_, output) => ask (Program.close output)
    | none => pure ()
    startStages host f isBackground (pipe?.map (·.1)) (child :: children) more

def isChecked : Script → Bool
  | .simple .. | .pipeline .. | .subshell .. | .background .. => true
  | _ => false

def runScript (host : Host) (a : Script) (f : Flags) : Action Unit := do
  let below : Flags := { isTested := f.isTested }
  match a with
  | .simple line settings words rs => do setStatus (← call host f line settings words rs)
  | .sequence steps => runSteps host f steps
  | .both a b => do
    let status ← host.run a { isTested := true }
    if status = 0 && !(← isSkipping) then setStatus (← host.run b f)
  | .either a b => do
    let status ← host.run a { isTested := true }
    if status ≠ 0 && !(← isSkipping) then setStatus (← host.run b f)
  | .negated a => do
    let status ← host.run a { isTested := true }
    setStatus (if status = 0 then 1 else 0)
  | .pipeline stages isBackground => do
    let children ← startStages host f isBackground none [] stages
    if isBackground then
      noteJob children
      setStatus 0
    else setStatus (← awaitFront children)
  | .background line a rs => do
    modify fun s => { s with line := line }
    setStatus (← runApart host f true a rs)
  | .subshell line a rs => do
    modify fun s => { s with line := line }
    setStatus (← runApart host f false a rs)
  | .redirected line a rs => do
    modify fun s => { s with line := line }
    setStatus (← withRedirections host rs (host.run a below))
  | .choice condition yes no? => do
    let status ← host.run condition { isTested := true }
    if ← isSkipping then return
    else if status = 0 then setStatus (← host.run yes f)
    else
      match no? with
      | some no => setStatus (← host.run no f)
      | none => setStatus 0
  | .loop well condition body => do
    setStatus (← inLoop (rounds well (host.run condition { isTested := true })
      (host.run body below) Tools.roundLimit 0))
  | .each line name ws body => do
    modify fun s => { s with line := line }
    let fields ← ws.mapM (fillFields host)
    setStatus (← inLoop (eachWord name (host.run body below) 0 fields.flatten))
  | .select line w arms => do
    modify fun s => { s with line := line }
    let text ← fillText host { seesTilde := true } w
    setStatus (← runArms host f text arms)
  | .define name line body => do
    modify fun s => { s with functions := (name, ⟨line, body⟩) :: s.functions.filter (·.1 ≠ name) }
    setStatus 0

/-- Running a script, what is to be done about signals and failures included. The answer is its
status. -/
def runChecked (host : Host) (a : Script) (f : Flags) : Action Nat := do
  runTraps host
  if !(← get).has 'n' then runScript host a f
  runTraps host
  let s ← get
  if (isChecked a && s.has 'e' && !f.isTested && s.status ≠ 0) || f.isLast then throw .ended
  else return s.status

/-- Running a script on a level: scripts inside it are run on the level below. -/
def runOn (program? : String → Option Tools.Tool) : Nat → Script → Flags → Action Nat
  | 0, _, _ => do
    let (process, _) ← ask Program.self
    let _ ← ask (Program.signal process 11)
    ask Program.hang
  | level + 1, a, f => runChecked ⟨runOn program? level, program?⟩ a f

end Action
end LintRepair.Shell
