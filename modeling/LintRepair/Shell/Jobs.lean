import LintRepair.Shell.Builtin

/-!
Commands of the shell about processes and signals: waiting, sending signals, and what is done about
those that come.
-/
namespace LintRepair.Shell
open LintRepair.System

/-- The names of the signals from the first one on; what stands for the end comes before. -/
def signalNames : List String :=
  ["EXIT", "HUP", "INT", "QUIT", "ILL", "TRAP", "ABRT", "BUS", "FPE", "KILL", "USR1", "SEGV",
    "USR2", "PIPE", "ALRM", "TERM", "16", "CHLD", "CONT", "STOP", "TSTP", "TTIN", "TTOU", "URG",
    "XCPU", "XFSZ", "VTALRM", "PROF", "WINCH", "IO", "PWR", "SYS", "32", "33", "RTMIN"] ++
  ((List.range 15).map fun n => "RTMIN+" ++ toString (n + 1)) ++
  ((List.range 14).map fun n => "RTMAX-" ++ toString (14 - n)) ++ ["RTMAX"]

def isDigits (w : String) : Bool := w ≠ "" && w.toList.all Char.isDigit

def signalNumber? (w : String) : Option Nat :=
  if isDigits w then w.toNat?.filter (· < signalNames.length) else none

def signal? (least : Nat) (w : String) : Option Nat :=
  match signalNumber? w with
  | some n => some n
  | none => ((signalNames.map (·.toUpper)).drop least).findIdx? (· = w.toUpper) |>.map (· + least)

namespace Action

def jobOf (w : String) : Action Job := do
  let jobs := (← get).jobs
  let job? := match w.drop 1 |>.toString with
    | "" | "%" | "+" => jobs.head?
    | "-" => jobs[1]?
    | n => jobs.find? fun j => n.toNat? = some j.number
  match job? with
  | some j => return j
  | none => fail ("No such job: " ++ w)

def isOver (s : Session) (j : Job) : Bool := j.processes.all fun p => s.endings.any (·.1 = p)

def afterSignal : Action Nat := do
  let came ← ask Program.signals
  modify fun s => { s with caught := s.caught ++ came }
  return 128 + came.getLast?.getD 0

/-- Waiting for some jobs, or all of them. `fuel` bounds the children that end. -/
def waitFor (isMeant : Job → Bool) (announced : Nat → Bool) : Nat → Action (Option Nat)
  | 0 => return none
  | fuel + 1 => do
    let s ← get
    if (s.jobs.filter isMeant).all (isOver s) then
      set { s with jobs := s.jobs.map fun j => if isMeant j then { j with wasAsked := true } else j }
      return none
    else
      match ← ask (Program.await { interruptible := true }) with
      | .ok (some (child, e)) => do
        modify fun s => { s with endings := (child, e) :: s.endings }
        if announced child then announce e
        waitFor isMeant announced fuel
      | .error .interrupted => return some (← afterSignal)
      | _ => return none

/-- Waiting for the job that a word gives, by its number or by that of its last process. -/
def waitWord (w : String) : Action (Nat × Bool) := do
  let job? ← if w.startsWith "%" then some <$> jobOf w
    else do
      let n ← number w
      pure ((← get).jobs.find? fun j => j.processes.getLast? = some n)
  match job? with
  | none => return (127, false)
  | some job =>
    match ← waitFor (·.number = job.number) job.processes.contains Tools.roundLimit with
    | some status => return (status, true)
    | none => return (← statusOfAll job.processes, false)

def waitWords : Nat → List String → Action Nat
  | status, [] => return status
  | _, w :: more => do
    let (status, isCut) ← waitWord w
    if isCut then return status else waitWords status more

def endingText : Ending → String
  | .exited 0 => "Done"
  | .exited n => "Done(" ++ toString n ++ ")"
  | .signaled n => (signalTexts.lookup n).getD ("Signal " ++ toString n)

def killUsage : String :=
  "Usage: kill [-s sigspec | -signum | -sigspec] [pid | job]... or\nkill -l [exitstatus]"

def goalOf (w : String) : Action Int := do
  if w.startsWith "%" then
    let job ← jobOf w
    return -((job.processes.headD 0 : Nat) : Int)
  else if w.startsWith "-" then return -((← number (w.drop 1).toString : Nat) : Int)
  else return (← number w : Nat)

def sendTo (sig : Nat) (words : List String) : Action Nat := do
  let statuses ← words.mapM fun w => do
    match ← ask (Program.signal (← goalOf w) sig) with
    | .ok () => return 0
    | .error e => do
      complain (e.reason ++ "\n")
      return 1
  return statuses.foldl max 0

end Action

def wait : Builtin := fun c => do
  let (_, words) ← Action.options "" c.words
  if words.isEmpty then
    return (← Action.waitFor (fun _ => true) (fun _ => false) Tools.roundLimit).getD 0
  else Action.waitWords 127 words

def jobs : Builtin := fun _ => do
  Action.noteAllPast Tools.roundLimit
  let s ← get
  let line := fun (j : Job) (place : Nat) =>
    let mark := if place = 0 then "+" else if place = 1 then "-" else " "
    let last? := j.processes.getLast?.bind fun p => s.endings.lookup p
    let start := "[" ++ toString j.number ++ "] " ++ mark ++ " " ++
      (match last? with
        | some e => if Action.isOver s j then Action.endingText e else "Running"
        | none => "Running")
    start ++ String.ofList (List.replicate (33 - start.length) ' ') ++ "\n"
  let lines := s.jobs.zipIdx.map fun j => line j.1 j.2
  set { s with jobs := s.jobs.filter (!Action.isOver s ·) }
  Action.print (String.join lines)

def moveJob : Builtin := fun c =>
  match c.words with
  | [] => Action.fail "No current job"
  | w :: _ => do
    let _ ← Action.jobOf w
    Action.fail ("job " ++ w ++ " not created under job control")

def kill : Builtin := fun c => do
  let send := fun (sig : Nat) (words : List String) =>
    if words.isEmpty then Action.fail Action.killUsage else Action.sendTo sig words
  match c.words with
  | [] => Action.fail Action.killUsage
  | w :: more =>
    if !w.startsWith "-" then Action.sendTo 15 c.words
    else
      match signal? 1 (w.drop 1).toString with
      | some sig => send sig more
      | none => do
        let (found, words) ← Action.options "ls:" c.words
        let sigs ← (found.filter (·.1 = 's')).mapM fun o =>
          match signal? 1 o.2 with
          | some sig => pure sig
          | none => Action.fail ("invalid signal number or name: " ++ o.2)
        let lists := found.any (·.1 = 'l')
        match lists, sigs.getLast?, words with
        | true, none, [] =>
          Action.print (String.join (("0" :: signalNames.drop 1).map (· ++ "\n")))
        | true, none, w :: _ => do
          let n ← Action.number w
          let n := if n > 128 then n - 128 else n
          match if n = 0 then none else signalNames[n]? with
          | some name => Action.print (name ++ "\n")
          | none => Action.fail ("invalid signal number or exit status: " ++ w)
        | true, some _, _ => Action.fail Action.killUsage
        | false, sig?, words => send (sig?.getD 15) words

def trap : Builtin := fun c => do
  let (_, words) ← Action.options "" c.words
  match words with
  | [] => do
    let s ← get
    let traps := s.traps.mergeSort fun a b => a.1 ≤ b.1
    Action.print (String.join (traps.map fun t =>
      "trap -- " ++ inQuotes t.2 ++ " " ++ signalNames[t.1]?.getD "" ++ "\n"))
  | first :: more =>
    let hasAction := !more.isEmpty && (signalNumber? first).isNone
    let action? := if hasAction && first ≠ "-" then some first else none
    go action? (if hasAction then more else words)
where
  go (action? : Option String) : List String → Action Nat
    | [] => return 0
    | w :: more => do
      match signal? 0 w with
      | none => do
        Action.ask (Program.say 2 ("trap: " ++ w ++ ": bad trap\n"))
        return 1
      | some n => do
        modify fun s =>
          { s with traps := (action?.map fun a => (n, a)).toList ++ s.traps.filter (·.1 ≠ n) }
        if n ≠ 0 then
          Action.ask (Program.dispose n (match action? with
            | none => .default
            | some "" => .ignored
            | some _ => .caught))
        go action? more

end LintRepair.Shell
