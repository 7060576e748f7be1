import LintRepair.Shell.Grammar
import LintRepair.Shell.Session

/-!
Running the text of scripts, and processes beside the shell: starting them, waiting for them, and
what is done about signals and at the end.
-/
namespace LintRepair.Shell
open LintRepair.System

def signalTexts : List (Nat × String) :=
  [(1, "Hangup"), (2, "Interrupt"), (3, "Quit"), (4, "Illegal instruction"),
    (5, "Trace/breakpoint trap"), (6, "Aborted"), (7, "Bus error"), (8, "Floating point exception"),
    (9, "Killed"), (10, "User defined signal 1"), (11, "Segmentation fault"),
    (12, "User defined signal 2"), (13, "Broken pipe"), (14, "Alarm clock"), (15, "Terminated"),
    (16, "Stack fault"), (17, "Child exited"), (18, "Continued"), (19, "Stopped (signal)"),
    (20, "Stopped"), (21, "Stopped (tty input)"), (22, "Stopped (tty output)"),
    (23, "Urgent I/O condition"), (24, "CPU time limit exceeded"), (25, "File size limit exceeded"),
    (26, "Virtual timer expired"), (27, "Profiling timer expired"), (28, "Window changed"),
    (29, "I/O possible"), (30, "Power failure"), (31, "Bad system call")]

def statusOf : Ending → Nat
  | .exited n => n
  | .signaled n => 128 + n

namespace Action

/-- Running the rest of a text, one list of commands after the other. `fuel` bounds them. -/
def runSource (host : Host) (f : Flags) : Nat → Source → Nat → Action Nat
  | 0, _, status => return status
  | fuel + 1, source, status => do
    match source.next with
    | .done => return status
    | .failed e => do
      modify fun s => { s with line := e.line }
      fail ("Syntax error: " ++ e.what)
    | .line a isLast rest => do
      modify fun s => { s with
        documents := rest.documents ++ s.documents, freshDocument := rest.fresh
        lineRead := rest.line }
      let status ← match a with
        | none => pure status
        | some a => host.run a { f with isLast := f.isLast && isLast }
      let s ← get
      if s.skip ≠ .none || isLast then return status
      else
        runSource host f fuel
          { rest with documents := [], replacements := s.replacements, fresh := s.freshDocument }
          status

def runText (host : Host) (f : Flags) (text : String) : Action Nat := do
  let s ← get
  let status ← runSource host f (text.length + 1)
    { rest := text.toList, replacements := s.replacements, fresh := s.freshDocument } 0
  modify fun after => { after with lineRead := s.lineRead }
  return status

def runTraps (host : Host) : Action Unit := do
  let s ← get
  if s.traps.any (·.1 ≠ 0) then
    let came := s.caught ++ (← ask Program.signals)
    if !came.isEmpty then
      modify fun s => { s with caught := [] }
      let before := s.finalStatus
      let status := before.getD s.status
      modify fun s => { s with finalStatus := some status }
      (came.mergeSort (· ≤ ·)).forM fun sig => do
        match (← get).traps.lookup sig with
        | none => pure ()
        | some text => do
          let _ ← runText host {} text
          modify fun s => if s.skip = .return true then s else { s with status := status }
      modify fun s => { s with finalStatus := before }

def finish (host : Host) (r : Except Stop Nat) (s : Session) : Program Nat := do
  let status := match r with
    | .error .left => s.finalStatus.getD s.status
    | _ => s.status
  match s.traps.lookup 0 with
  | none => return status
  | some text => do
    let s := { s with
      traps := s.traps.filter (·.1 ≠ 0), skip := .none, status := status
      finalStatus := some status }
    let (r, s) ← ((runText host {} text).run).run s
    match r with
    | .ok _ | .error .left => return s.finalStatus.getD s.status
    | .error _ => return s.status

/-- What a new process that goes on with this shell does first: what was done about signals is
forgotten, but ignored ones stay so. -/
def enterChild (isBackground hasInput : Bool) : Action Unit := do
  let s ← get
  let (ignored, caught) := s.traps.partition (·.2 = "")
  caught.forM fun t => if t.1 = 0 then pure () else ask (Program.dispose t.1 .default)
  set { s with
    traps := ignored, jobs := [], endings := [], loops := 0, skip := .none, finalStatus := none }
  if isBackground then
    ask (Program.dispose 2 .ignored)
    ask (Program.dispose 3 .ignored)
    if hasInput then
      ask (Program.close 0)
      let _ ← ask (Program.openFile "/dev/null" { readable := true })

def start (host : Host) (isBackground hasInput : Bool) (steps : Action Nat) : Action Nat := do
  let s ← get
  let child : Program Nat := do
    let (r, s) ← ((do
      enterChild isBackground hasInput
      steps : Action Nat).run).run s
    finish host r s
  ask (Program.fork child.toProcess)

def announce : Ending → Action Unit
  | .exited _ => return
  | .signaled n =>
    if n = 2 || n = 13 then return
    else ask (Program.say 2 ((signalTexts.lookup n).getD "Unknown signal" ++ "\n"))

def notePast (impatient : Bool) : Action Bool := do
  match ← ask (Program.await { impatient }) with
  | .ok (some e) => do
    modify fun s => { s with endings := e :: s.endings }
    return true
  | _ => return false

/-- Noting the children that have ended. `fuel` bounds them. -/
def noteAllPast : Nat → Action Unit
  | 0 => return
  | fuel + 1 => do if ← notePast true then noteAllPast fuel

/-- Noting the next child that ends. The answer is false if none can, or if a signal came first. -/
def noteEnding (isOurs : Nat → Bool) (interruptible : Bool) : Action Bool := do
  match ← ask (Program.await { interruptible }) with
  | .ok (some (child, e)) => do
    modify fun s => { s with endings := (child, e) :: s.endings }
    if isOurs child then announce e
    return true
  | _ => return false

/-- How some processes have ended: the last of them counts. -/
def statusOfAll (processes : List Nat) : Action Nat := do
  let s ← get
  let last? := processes.getLast?.bind fun p => s.endings.lookup p
  return (last?.map statusOf).getD 0

/-- Waiting for some processes. The answer is false if a signal came before they ended. -/
def awaitAll (processes : List Nat) (interruptible : Bool) : Nat → Action Bool
  | 0 => return true
  | fuel + 1 => do
    let s ← get
    if processes.all fun p => s.endings.any (·.1 = p) then return true
    else if ← noteEnding processes.contains interruptible then
      awaitAll processes interruptible fuel
    else return false

def awaitFront (processes : List Nat) : Action Nat := do
  let _ ← awaitAll processes false Tools.roundLimit
  let status ← statusOfAll processes
  modify fun s => { s with endings := s.endings.filter fun e => !processes.contains e.1 }
  return status

def noteJob (processes : List Nat) : Action Unit := modify fun s =>
  let isOver := fun (j : Job) =>
    j.wasAsked && j.processes.all fun p => s.endings.any (·.1 = p)
  let jobs := s.jobs.filter (!isOver ·)
  let number := ((List.range (jobs.length + 1)).map (· + 1)).find? fun n =>
    jobs.all (·.number ≠ n)
  { s with
    jobs := { number := number.getD 1, processes := processes } :: jobs
    lastJob := processes.getLast? }

end Action
end LintRepair.Shell
