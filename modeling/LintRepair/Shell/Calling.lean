import LintRepair.Shell.Table

/-!
Simple commands. Their words are filled in first, then descriptors are led elsewhere, then variables
are set, and only then the command is called: one of the shell's own, a function, or a program in a
process beside the shell.
-/
namespace LintRepair.Shell
open LintRepair.System

structure Beginning where
  words : List String
  rest : List Word
  /-- The command is one that matters to the shell itself; none if that is not known. -/
  isSpecial : Option Bool := none
  isLocal : Bool := false
  sets : Bool := false
  isExec : Bool := false
  seesFunctions : Bool := true
  path? : Option String := none

def depthLimit : Nat := 1000

namespace Action

def firstWords (host : Host) : List Word → Action (List String × List Word)
  | [] => return ([], [])
  | w :: ws => do
    let fields ← fillFields host w
    if fields.isEmpty then firstWords host ws else return (fields, ws)

/-- Going over the options of `command`. The words before come in reverse. The answer is whether
another command follows, all words that were filled in or those from that command on, and the words
that were not. `fuel` bounds the words. -/
def behindCommand (host : Host) : Nat → List String → List String → List Word → Option String →
    Action (Bool × List String × List Word × Option String)
  | 0, before, words, rest, path? => return (false, before.reverse ++ words, rest, path?)
  | fuel + 1, before, words, rest, path? => do
    let (words, rest) ← if words.isEmpty then firstWords host rest else pure (words, rest)
    match words with
    | [] => return (false, before.reverse, [], path?)
    | w :: more =>
      match w.toList with
      | ['-', '-'] => do
        let (more, rest) ← if more.isEmpty then firstWords host rest else pure (more, rest)
        if more.isEmpty then return (false, before.reverse ++ [w], rest, path?)
        else return (true, more, rest, path?)
      | '-' :: c :: cs =>
        if (c :: cs).all (· = 'p') then
          behindCommand host fuel (w :: before) more rest (some standardPath)
        else
          let path? := if c = 'p' then some standardPath else path?
          return (false, before.reverse ++ words, rest, path?)
      | _ => return (true, words, rest, path?)

/-- Finding out what the first word says about the others. `fuel` bounds the words. -/
def settle (host : Host) : Nat → Beginning → Action Beginning
  | 0, o => return o
  | fuel + 1, o => do
    match o.words with
    | [] => return o
    | name :: more => do
      let isFunction := o.seesFunctions && ((← get).functions.lookup name).isSome
      match if isFunction then none else (builtinKinds.lookup name).filter (·.isRegular) with
      | none => return { o with isLocal := true }
      | some k =>
        let o := { o with
          sets := k.sets
          isExec := name = "exec"
          isLocal := o.isSpecial.isSome || !k.isSpecial
          isSpecial := some (o.isSpecial.getD k.isSpecial) }
        if name ≠ "command" then return o
        else
          let (follows, words, rest, path?) ← behindCommand host (more.length + o.rest.length + 2)
            [] more o.rest o.path?
          if follows then
            settle host fuel
              { o with words := words, rest := rest, path? := path?, seesFunctions := false }
          else return { o with words := name :: words, rest := rest, path? := path? }

def fillRest (host : Host) (o : Beginning) : Action (List String) := do
  let fields ← o.rest.mapM fun w =>
    if o.sets && isSetting w then do
      return [← fillText host { seesTilde := false, isSetting := true } w]
    else fillFields host w
  return o.words ++ fields.flatten

def trace (host : Host) (fd : Nat) (words : List String) : Action Unit := do
  let s ← get
  if s.has 'x' && !s.isTracing then
    let mark := (s.value? "PS4").getD ""
    set { s with isTracing := true }
    let mark ← match quotedWord? mark with
      | some w => fillText host { isQuoted := true } w
      | none => pure mark
    modify fun s => { s with isTracing := false }
    ask (Program.say fd (mark ++ " ".intercalate words ++ "\n"))

/-- Setting the variables of a command. The answer is what was set, in writing. -/
def setAll (host : Host) (isLocal exports : Bool) (ws : List Word) : Action (List String) :=
  ws.mapM fun w => do
    let (name, value) ← fillSetting host w
    if isLocal then
      keepVariable name
      setVariable name (some value) true
    else setVariable name (some value) exports
    return name ++ "=" ++ value

/-- Calling a command of the shell. A failure of it ends the shell only if it is special. -/
def callBuiltin (host : Host) (f : Flags) (isSpecial : Bool) (run : Builtin) (name : String)
    (words : List String) : Action Nat := do
  let before := (← get).command
  modify fun s => { s with command := some name }
  let r ← attempt (run { host := host, flags := f, name := name, words := words })
  modify fun s => { s with command := before }
  match r with
  | .ok status => return status
  | .error .failed => if isSpecial then throw .failed else return (← get).status
  | .error e => throw e

def callFunction (host : Host) (f : Flags) (a : Function) (words : List String) : Action Nat := do
  let before ← get
  if before.depth ≥ depthLimit then
    fail ("Maximum function recursion depth (" ++ toString depthLimit ++ ") reached")
  else
    set { before with
      words := words, optionIndex := 1, optionOffset := none, loops := 0
      depth := before.depth + 1 }
    let r ← attempt (host.run a.body { isTested := f.isTested })
    modify fun s => { s with
      words := before.words, optionIndex := before.optionIndex
      optionOffset := before.optionOffset, loops := before.loops, depth := before.depth
      skip := match s.skip with
        | .return _ => .none
        | k => k }
    match r with
    | .ok _ => return (← get).status
    | .error e => throw e

def hasTraps : Action Bool := return (← get).traps.any (·.2 ≠ "")

def callProgram (host : Host) (f : Flags) (path : String) (name : String) (words : List String) :
    Action Nat := do
  if f.isLast && !(← hasTraps) then becomeProgram host path name words
  else
    let s ← get
    let child : Program Nat := do
      let (_, s) ← ((becomeProgram host path name words).run).run s
      return s.status
    let child ← ask (Program.fork child.toProcess)
    awaitFront [child]

/-- Calling a command by its words, variables being set and descriptors led where they belong. -/
def callWords (host : Host) (f : Flags) (o : Beginning) (words : List String) : Action Nat := do
  match words with
  | [] => return (← get).outputStatus
  | name :: more => do
    let path ← match o.path? with
      | some p => pure p
      | none => searchPath
    match ← meaningOf o.seesFunctions path name with
    | .unknown reason => do
      complain (name ++ ": " ++ reason)
      modify fun s => { s with status := 127 }
      if o.isSpecial = some true then throw .failed else return 127
    | .program _ => callProgram host f path name more
    | .function a => callFunction host f a more
    | .builtin _ =>
      match builtins.lookup name with
      | some run => callBuiltin host f (o.isSpecial = some true) run name more
      | none => return 127

def call (host : Host) (f : Flags) (line : Nat) (settings words : List Word)
    (rs : List Redirection) : Action Nat := do
  ask (Program.pass 1)
  modify fun s => { s with line := line, outputStatus := 0 }
  let (first, rest) ← firstWords host words
  let o ← settle host (words.length + first.length + 2) { words := first, rest := rest }
  let words ← fillRest host o
  let depth := (← get).locals.length
  if o.isLocal then pushLocals
  let aims ← attempt (rs.mapM (aim host))
  let r ← match aims with
    | .error e => pure (.error e)
    | .ok aims => do
      let (kept, isDone) ← redirect host true aims []
      let exports := o.isExec && words.length > 1
      let r ← attempt (do
        if !isDone then
          modify fun s => { s with status := 2 }
          if o.isSpecial = some true then throw .failed else return 2
        else
          let traceTo := ((kept.find? (·.fd = 2)).bind (·.place?)).getD 2
          let set ← setAll host o.isLocal exports settings
          trace host traceTo (set ++ words)
          callWords host f o words : Action Nat)
      if o.isExec then letGo kept else bringBack kept
      pure r
  popLocals depth ((← get).locals.length + 1)
  proceed r

end Action
end LintRepair.Shell
