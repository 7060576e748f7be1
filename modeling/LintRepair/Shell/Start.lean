import LintRepair.Command.Run
import LintRepair.Shell.Evaluation
import LintRepair.System.Kernel
import LintRepair.Tools.Table

/-!
Starting shells, and the programs of a small system: the shell and the tools. Like everything else
they stand in the file tree, where they are found by their names.
-/
namespace LintRepair.Shell
open LintRepair.System

def levelLimit : Nat := 30000

def shellLimit : Nat := 20000

def firstVariables : List (String × String) :=
  [("IFS", " \t\n"), ("OPTIND", "1"), ("PATH", standardPath), ("PS1", "# "), ("PS2", "> "),
    ("PS4", "+ ")]

def Session.begin (i : Tools.Invocation) : Program Session := do
  let (process, parent) ← Program.self
  let here ← Program.whereabouts
  let given := i.environment.filter fun v =>
    isName v.1 && v.1 ≠ "IFS" && v.1 ≠ "OPTIND" && v.1 ≠ "PPID" && v.1 ≠ "PWD"
  let exported := (given ++ [("PWD", here)]).map fun v =>
    (v.1, ({ value? := some v.2, isExported := true } : Variable))
  let own := (firstVariables ++ [("PPID", toString parent)]).map fun v =>
    (v.1, ({ value? := some v.2 } : Variable))
  return {
    name := i.name, vars := exported ++ own.filter fun v => exported.all (·.1 ≠ v.1)
    process := process, parent := parent, directory := here }

namespace Action

/-- Setting options as the shell is called with them. The answer tells whether the text to run
follows, and the words behind. `fuel` bounds the words. -/
def readOptions : Nat → Bool → List String → Action (Bool × List String)
  | 0, hasText, words => return (hasText, words)
  | _, hasText, [] => return (hasText, [])
  | fuel + 1, hasText, w :: words => do
    let letters := fun (isOn : Bool) (cs : List Char) => do
      let rest ← setLetters isOn (cs.filter fun c => c ≠ 'c' && c ≠ 'l') words
      readOptions fuel (hasText || cs.contains 'c') rest
    match w.toList with
    | ['-'] | ['-', '-'] => return (hasText, words)
    | '-' :: cs => letters true cs
    | '+' :: cs => letters false cs
    | _ => return (hasText, w :: words)

/-- Running what a shell is called with: a text, a file or its input. -/
def runCall (host : Host) (words : List String) : Action Nat := do
  let runInput : Action Nat := do
    let bytes ← collect 0 Tools.roundLimit []
    runText host {} (ByteText.ofBytes bytes)
  let (hasText, words) ← readOptions (words.length + 1) false words
  match words with
  | [] =>
    if hasText then fail "-c requires an argument"
    else
      setOption true 's'
      runInput
  | first :: more => do
    let readsInput := (← get).has 's'
    if hasText then
      match more with
      | name :: more => modify fun s => { s with name := name, words := more }
      | [] => pure ()
      let status ← runText host { isLast := !readsInput } first
      if readsInput then runInput else return status
    else if readsInput then
      modify fun s => { s with words := words }
      runInput
    else
      let text ← readFile first
      modify fun s => { s with name := first, words := more }
      runText host {} text

end Action

mutual

def program? (depth : Nat) (name : String) : Option Tools.Tool :=
  if name = "sh" || name = "dash" then some (shell depth) else Tools.all.lookup name

def shell : Nat → Tools.Tool
  | 0 => fun _ => return 2
  | depth + 1 => fun i => do
    let host : Host := ⟨Action.runOn (program? depth) levelLimit, program? depth⟩
    let s ← Session.begin i
    let (r, s) ← ((Action.runCall host i.words).run).run s
    Action.finish host r s

end

def systemDirectories : List (List String) :=
  [["bin"], ["boot"], ["dev"], ["etc"], ["home"], ["lib"], ["media"], ["mnt"], ["opt"], ["root"],
    ["run"], ["sbin"], ["srv"], ["tmp"], ["usr"], ["usr", "bin"], ["usr", "lib"],
    ["usr", "local"], ["usr", "local", "bin"], ["usr", "local", "sbin"], ["usr", "sbin"],
    ["usr", "share"], ["var"], ["var", "log"], ["var", "tmp"]]

/-- The files of every system: the programs, by whose names they are found. -/
def systemTree : Tree :=
  let names := "sh" :: "dash" :: Tools.all.map (·.1)
  ⟨systemDirectories.map (·, .directory) ++
    names.flatMap fun n => [(["usr", "bin", n], .file [0x7f]), (["bin", n], .file [0x7f])]⟩

def firstNumber : Nat := 1000

/-- The variables of every environment, unless it has them already: texts are sorted and told apart
by their bytes. -/
def everywhere : List (String × String) :=
  [("LC_ALL", "C"), ("PATH", standardPath), ("HOME", "/root")]

def idleKernel (t : Tree) : Kernel :=
  { tree := t, fresh := firstNumber + 1, first := firstNumber }

def toolNamed? (k : Kernel) (cwd : List String) (path name : String) : Except FileError Tools.Tool :=
  let found := fun (p : String) =>
    match k.look cwd p with
    | .error (.file e) => Except.error e
    | .error _ => .error .notFound
    | .ok c =>
      match c.kind, c.file? with
      | .file _, some key =>
        match key.getLast?.bind (program? shellLimit) with
        | some tool => if isProgramPlace key then .ok tool else .error .noPermission
        | none => .error .noPermission
      | _, _ => .error .noPermission
  if name.contains '/' then found name
  else if name = "" then .error .notFound
  else if name.length > Tree.nameLimit then .error .nameTooLong
  else
    let results := (pathsOf path name).map found
    match results.findSome? Except.toOption with
    | some tool => .ok tool
    | none =>
      if results.any fun r => match r with
        | .error .noPermission => true
        | _ => false
      then .error .noPermission
      else .error .notFound

def stepLimit : Nat := 500000

/-- What a tool does from a place, within so many milliseconds, and the tree after it. -/
def runTool (k : Kernel) (cwd : List String) (timeout : Nat) (tool : Program Nat) :
    Execution × Tree :=
  let task : Task :=
    { number := firstNumber, parent := firstNumber - 1, cwd := cwd, process := tool.toProcess
      descriptors := [(0, { goal := .null, writable := false }),
        (1, { goal := .stream .out, readable := false }),
        (2, { goal := .stream .err, readable := false })] }
  let (isAtWork, k) := { k with tasks := [task] }.run (some (timeout * 1000)) stepLimit
  let ending : CommandEnding :=
    if isAtWork then .timedOut
    else
      match k.firstEnding? with
      | some (.exited n) => .exited n
      | _ => .killed
  (⟨[k.printed .out], [k.printed .err], ending⟩, k.tree)

def programs (environment : List (String × String)) : Programs := fun words base q t =>
  match words with
  | [] => (.error (.file .notFound), t)
  | name :: _ =>
    if (q.workdir.text :: words).any (·.contains '\x00') then (.error .badWord, t)
    else
      match t.target base q.workdir, t.stat base q.workdir with
      | .ok target, .ok .directory =>
        let given := environment ++ everywhere.filter fun v => environment.all (·.1 ≠ v.1)
        let given := given.map fun v => (ByteText.encode v.1, ByteText.encode v.2)
        let k := idleKernel t
        let path := (given.lookup "PATH").getD standardPath
        match toolNamed? k target.key path (ByteText.encode name) with
        | .error e => (.error (.file e), t)
        | .ok tool =>
          let words := words.map ByteText.encode
          if areTooLong (words ++ given.map fun v => v.1 ++ "=" ++ v.2) then
            (.error (.file .listTooLong), t)
          else if q.timeout = 0 then (.ok { ending := .timedOut }, t)
          else
            let (e, t) := runTool k target.key q.timeout
              (tool { name := words.headD "", words := words.tail, environment := given })
            (.ok e, t)
      | _, .ok (.file _) => (.error (.file .notDirectory), t)
      | _, .error e => (.error (.file e), t)
      | .error e, _ => (.error (.file e), t)

end LintRepair.Shell
