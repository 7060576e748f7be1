import LintRepair.Shell.Builtin
import LintRepair.Shell.Token
import LintRepair.Text.Split

/-!
What the name of a command means, and programs that are started: where they are searched, and what
is told about one that can not be started.
-/
namespace LintRepair.Shell
open LintRepair.System

def standardPath : String := "/usr/local/sbin:/usr/local/bin:/usr/sbin:/usr/bin:/sbin:/bin"

def pathsOf (path name : String) : List String :=
  (Text.split ':' path.toList).map fun d =>
    if d.isEmpty then name else String.ofList d ++ "/" ++ name

inductive Meaning where
  | function (f : Function)
  | builtin (k : BuiltinKind)
  | program (path : String)
  | unknown (reason : String)

def rowOf (rows : Nat) (name : String) : Nat :=
  let first := (name.toList.head?.map Char.toNat).getD 0
  (name.toList.foldl (fun n c => n + c.toNat) (first * 16)) % 32768 % rows

def inRows {α : Type} (rows : Nat) (entries : List (String × α)) : List (String × α) :=
  entries.reverse.mergeSort fun a b => rowOf rows a.1 ≤ rowOf rows b.1

def wordSize : Nat := 131071

def wordsSize : Nat := 2097152

def areTooLong (words : List String) : Bool :=
  words.any (·.length > wordSize) || words.foldl (fun n w => n + w.length + 9) 0 > wordsSize

def startReason : Refusal → String × Nat
  | .file .notFound | .file .notDirectory => ("not found", 127)
  | .file .nameTooLong => ("File name too long", 127)
  | e => (e.reason, 126)

def isAbsence : Refusal → Bool
  | .file .notFound | .file .notDirectory => true
  | _ => false

namespace Action

def searchPath : Action String := return ((← get).value? "PATH").getD standardPath

def firstFile : List String → Refusal → Action (Except Refusal String)
  | [], e => return .error e
  | path :: more, e => do
    match ← ask (Program.look path) with
    | .error f => firstFile more (if isAbsence f then e else f)
    | .ok c =>
      match c.kind with
      | .file _ => return .ok path
      | _ => firstFile more (.file .noPermission)

/-- What a name means. Programs are searched at a path; those that are found on the usual one are
noted. -/
def meaningOf (seesFunctions : Bool) (path name : String) : Action Meaning := do
  if name.contains '/' then return .program name
  else
    let s ← get
    match if seesFunctions then s.functions.lookup name else none with
    | some f => return .function f
    | none =>
      match builtinKinds.lookup name with
      | some k => return .builtin k
      | none =>
        let isUsual := path = (← searchPath)
        match if isUsual then s.found.lookup name else none with
        | some p => return .program p
        | none =>
          match ← firstFile (pathsOf path name) (.file .notFound) with
          | .ok p => do
            if isUsual then modify fun s => { s with found := (name, p) :: s.found }
            return .program p
          | .error e => return .unknown (startReason e).1

def tryProgram (host : Host) (name : String) (words : List String) (path : String) :
    Action Refusal := do
  match ← ask (Program.look path) with
  | .error e => return e
  | .ok c =>
    let program? := match c.kind, c.file? with
      | .file _, some key => if isProgramPlace key then key.getLast? else none
      | _, _ => none
    match program?.bind host.program? with
    | none => return .file .noPermission
    | some tool => do
      let environment := (← get).environment
      if areTooLong (name :: words ++ environment.map fun v => v.1 ++ "=" ++ v.2) then
        return .file .listTooLong
      else
        ask Program.become
        let status ← ask (tool { name := name, words := words, environment := environment })
        ask (Program.exit status)

def tryPrograms (host : Host) (name : String) (words : List String) :
    List String → Refusal → Action Refusal
  | [], e => return e
  | path :: more, e => do
    let f ← tryProgram host name words path
    tryPrograms host name words more (if isAbsence f then e else f)

/-- Becoming a program; if it can not be started the shell ends. -/
def becomeProgram (host : Host) (path name : String) (words : List String) : Action Nat := do
  let e ← if name.contains '/' then tryProgram host name words name
    else tryPrograms host name words (pathsOf path name) (.file .notFound)
  let (reason, status) := startReason e
  complain (name ++ ": " ++ reason)
  modify fun s => { s with status := status }
  throw .ended

def describe (isShort : Bool) (path? : Option String) (name : String) : Action (String × Nat) := do
  let s ← get
  let line := fun (words short : String) =>
    ((if isShort then short else name ++ " is " ++ words) ++ "\n", 0)
  if (Token.keywords.lookup name).isSome then return line "a shell keyword" name
  else
    match s.replacements.lookup name with
    | some text =>
      return line ("an alias for " ++ text) ("alias " ++ name ++ "=" ++ inQuotes text)
    | none =>
      let tracked? := if path?.isSome then none else s.found.lookup name
      let path ← match path? with
        | some p => pure p
        | none => searchPath
      let missing := (if isShort then "" else name ++ ": not found\n", 127)
      match ← meaningOf true path name with
      | .function _ => return line "a shell function" name
      | .builtin k =>
        return line (if k.isSpecial then "a special shell builtin" else "a shell builtin") name
      | .program p =>
        if name.contains '/' && (← ask (Program.look name)).toOption.isNone then return missing
        else return line ((if tracked?.isSome then "a tracked alias for " else "") ++ p) p
      | .unknown _ => return missing

end Action

def typeOf : Builtin := fun c => do
  let told ← c.words.mapM (Action.describe false none)
  let r ← Action.print (String.join (told.map (·.1)))
  return told.foldl (fun n t => n ||| t.2) r

/-- Tells what a name means, if asked to; otherwise there is nothing to do. -/
def command : Builtin := fun c => do
  let (found, words) ← Action.options "pvV" c.words
  let has := fun l => found.any (·.1 = l)
  match words with
  | name :: _ =>
    if has 'v' || has 'V' then
      let path? := if has 'p' then some standardPath else none
      let (text, status) ← Action.describe (!has 'V') path? name
      let r ← Action.print text
      return status ||| r
    else return 0
  | [] => return 0

def hash : Builtin := fun c => do
  let (found, words) ← Action.options "r" c.words
  if !found.isEmpty then
    modify fun s => { s with found := [] }
    return 0
  else if words.isEmpty then
    Action.print (String.join ((inRows 31 (← get).found).map fun e => e.2 ++ "\n"))
  else
    let statuses ← words.mapM fun name => do
      modify fun s => { s with found := s.found.filter (·.1 ≠ name) }
      match ← Action.meaningOf true (← Action.searchPath) name with
      | .unknown reason => do
        Action.complain (name ++ ": " ++ reason)
        return 1
      | _ => return 0
    return if statuses.all (· = 0) then 0 else 1

def aliases : Builtin := fun c => do
  let shown := fun (e : String × String) => e.1 ++ "=" ++ inQuotes e.2 ++ "\n"
  if c.words.isEmpty then
    Action.print (String.join ((inRows 39 (← get).replacements).map shown))
  else
    let statuses ← c.words.mapM fun w => do
      let cs := w.toList
      let name := cs.take 1 ++ (cs.drop 1).takeWhile (· ≠ '=')
      if name.length < cs.length then
        let entry := (String.ofList name, String.ofList (cs.drop (name.length + 1)))
        modify fun s =>
          { s with replacements := entry :: s.replacements.filter (·.1 ≠ entry.1) }
        return 0
      else
        match (← get).replacements.lookup w with
        | some text => Action.print (shown (w, text))
        | none => do
          Action.ask (Program.say 2 ("alias: " ++ w ++ " not found\n"))
          return 1
    return statuses.foldl max 0

def unalias : Builtin := fun c => do
  let (found, words) ← Action.options "a" c.words
  if !found.isEmpty then
    modify fun s => { s with replacements := [] }
    return 0
  else
    let statuses ← words.mapM fun w => do
      if ((← get).replacements.lookup w).isSome then
        modify fun s => { s with replacements := s.replacements.filter (·.1 ≠ w) }
        return 0
      else
        Action.ask (Program.say 2 ("unalias: " ++ w ++ " not found\n"))
        return 1
    return statuses.foldl max 0

end LintRepair.Shell
