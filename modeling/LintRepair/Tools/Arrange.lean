import LintRepair.Tools.Options

/-!
Arranging files: making, removing, copying and moving them.
-/
namespace LintRepair.Tools
open LintRepair.System

/-- Doing something for each of some names; a failure of one is told and the others go on. -/
def forEach (i : Invocation) (names : List String)
    (act : String → Program (Except String Unit)) : Program Nat :=
  names.foldlM (fun status name => do
    match ← act name with
    | .ok () => return status
    | .error what => do
      i.complain what
      return 1) 0

def missingOperand (i : Invocation) (what : String) : Program Nat := do
  i.complain what
  i.refer 1

/-- Removing a directory with all below it, or a file. `fuel` bounds the depth. -/
def removeAll : Nat → String → Program (Except Refusal Unit)
  | 0, path => Program.removeFile path
  | fuel + 1, path => do
    match ← Program.look path with
    | .error e => return .error e
    | .ok c =>
      match c.kind with
      | .directory => do
        match ← Program.names path with
        | .error e => return .error e
        | .ok names => do
          names.forM fun name => do
            let _ ← removeAll fuel (path ++ "/" ++ name)
          Program.removeDirectory path
      | _ => Program.removeFile path

def rm : Tool := fun i => do
  let s ← i.sorted
    { letters := flags "firRdvI"
      names := [("force", .nothing, 'f'), ("recursive", .nothing, 'r'), ("help", .nothing, 'h')] } 1
  let force := s.has 'f'
  if s.operands.isEmpty then
    if force then return 0 else missingOperand i "missing operand"
  else
    forEach i s.operands fun name => do
      let failed := fun (why : String) =>
        Except.error ("cannot remove " ++ shellQuoted name ++ ": " ++ why)
      match ← Program.look name with
      | .error e => return if force && e = .file .notFound then .ok () else failed e.reason
      | .ok c =>
        if c.kind = .directory && !(s.has 'r' || s.has 'R') then return failed "Is a directory"
        else
          match ← removeAll 200 name with
          | .ok () => return .ok ()
          | .error e => return failed e.reason

def stepsTo (path : String) : List String :=
  let cs := path.toList
  let steps := (List.range cs.length).filterMap fun n =>
    if n > 0 && cs[n]? = some '/' then some (String.ofList (cs.take n)) else none
  steps.filter (· ≠ path) ++ [path]

def mkdir : Tool := fun i => do
  let s ← i.sorted
    { letters := [('m', .something)] ++ flags "pv"
      names := [("parents", .nothing, 'p'), ("help", .nothing, 'h')] } 1
  if s.operands.isEmpty then missingOperand i "missing operand"
  else
    forEach i s.operands fun name => do
      let failed := fun (name : String) (e : Refusal) =>
        (Except.error : String → Except String Unit)
          ("cannot create directory " ++ shellQuoted name ++ ": " ++ e.reason)
      if s.has 'p' then
        (stepsTo name).foldlM (fun done step => do
          match done with
          | .error what => return .error what
          | .ok () =>
            match ← Program.look step with
            | .ok c =>
              let e : FileError := if step = name then .alreadyExists else .notDirectory
              return if c.kind = .directory then .ok () else failed step (.file e)
            | .error _ => do
              match ← Program.makeDirectory step with
              | .ok () => return .ok ()
              | .error e => return failed step e) (.ok () : Except String Unit)
      else
        match ← Program.makeDirectory name with
        | .ok () => return .ok ()
        | .error e => return failed name e

def touch : Tool := fun i => do
  let s ← i.sorted
    { letters := flags "acm"
      names := [("no-create", .nothing, 'c'), ("help", .nothing, 'h')] } 1
  if s.operands.isEmpty then missingOperand i "missing file operand"
  else
    forEach i s.operands fun name => do
      match ← Program.look name with
      | .ok _ => return .ok ()
      | .error _ =>
        if s.has 'c' then return .ok ()
        else
          match ← Program.openFile name { writable := true, create := true } with
          | .ok fd => do
            Program.close fd
            return .ok ()
          | .error e => return .error ("cannot touch " ++ shellQuoted name ++ ": " ++ e.reason)

def lastName (path : String) : String :=
  let cs := path.toList.reverse.dropWhile (· = '/')
  String.ofList (cs.takeWhile (· ≠ '/')).reverse

/-- The path of a file inside a directory, or the path itself if it leads to no directory. -/
def goalFor (goal source : String) : Program String := do
  match ← Program.look goal with
  | .ok c => return if c.kind = .directory then goal ++ "/" ++ lastName source else goal
  | .error _ => return goal

def sourcesAndGoal (i : Invocation) (words : List String) : Program (List String × String) := do
  match words with
  | [] => do
    i.complain "missing file operand"
    i.refer 1
  | [w] => do
    i.complain ("missing destination file operand after " ++ shellQuoted w)
    i.refer 1
  | words => do
    let goal := words.getLast?.getD ""
    if words.length > 2 then
      match ← Program.look goal with
      | .ok c => if c.kind ≠ .directory then
          i.fail 1 ("target " ++ shellQuoted goal ++ ": Not a directory")
      | .error e => i.fail 1 ("target " ++ shellQuoted goal ++ ": " ++ e.reason)
    return (words.dropLast, goal)

def cp : Tool := fun i => do
  let s ← i.sorted { letters := flags "afprRv", names := [("help", .nothing, 'h')] } 1
  let (sources, goal) ← sourcesAndGoal i s.operands
  forEach i sources fun source => do
    match ← Program.look source with
    | .error e => return .error ("cannot stat " ++ shellQuoted source ++ ": " ++ e.reason)
    | .ok c =>
      if c.kind = .directory then
        return .error ("-r not specified; omitting directory " ++ shellQuoted source)
      else
        let goal ← goalFor goal source
        match ← Program.openFile source { readable := true } with
        | .error e =>
          return .error ("cannot open " ++ shellQuoted source ++ " for reading: " ++ e.reason)
        | .ok input =>
          match ← readAll input roundLimit [] with
          | .error e => return .error ("error reading " ++ shellQuoted source ++ ": " ++ e.reason)
          | .ok bytes =>
            let access : Access := { writable := true, create := true, truncate := true }
            match ← Program.openFile goal access with
            | .error e =>
              return .error ("cannot create regular file " ++ shellQuoted goal ++ ": " ++ e.reason)
            | .ok output => do
              let _ ← Program.write output bytes
              Program.close input
              Program.close output
              return .ok ()

def mv : Tool := fun i => do
  let s ← i.sorted { letters := flags "fnv", names := [("help", .nothing, 'h')] } 1
  let (sources, goal) ← sourcesAndGoal i s.operands
  forEach i sources fun source => do
    match ← Program.look source with
    | .error e => return .error ("cannot stat " ++ shellQuoted source ++ ": " ++ e.reason)
    | .ok _ =>
      let goal ← goalFor goal source
      match ← Program.rename source goal with
      | .ok () => return .ok ()
      | .error e => return .error ("cannot move " ++ shellQuoted source ++ " to " ++
          shellQuoted goal ++ ": " ++ e.reason)

end LintRepair.Tools
