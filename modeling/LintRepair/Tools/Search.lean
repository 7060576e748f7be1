import LintRepair.Tools.Options

/-!
Finding the lines that hold a text.
-/
namespace LintRepair.Tools
open LintRepair.System

def holds (part : List Char) : List Char → Bool
  | [] => part.isEmpty
  | c :: cs => part.isPrefixOf (c :: cs) || holds part cs

def linesOf (cs : List Char) : List (List Char) :=
  let r := cs.foldr (fun c (r : List Char × List (List Char)) =>
    if c = '\n' then ([], r.1 :: r.2) else (c :: r.1, r.2)) ([], [])
  match (r.1 :: r.2).reverse with
  | [] :: ls => ls.reverse
  | ls => ls.reverse

def grepFile (i : Invocation) (fits : List Char → Bool) (name : String) :
    Program (Option (List (Nat × String))) := do
  match ← openInput name with
  | .error e => do
    i.complain (name ++ ": " ++ e.reason)
    return none
  | .ok fd => do
    let r ← readAll fd roundLimit []
    closeInput name fd
    match r with
    | .error e => do
      i.complain (name ++ ": " ++ e.reason)
      return none
    | .ok bytes =>
      let lines := linesOf (ByteText.ofBytes bytes).toList
      return some ((lines.mapIdx fun n l => (n + 1, l)).filterMap fun l =>
        if fits l.2 then some (l.1, String.ofList l.2) else none)

def grep : Tool := fun i => do
  let s ← i.sorted
    { letters := [('e', .something)] ++ flags "qvcnFEisohHlxw"
      names := [("quiet", .nothing, 'q')] } 2
  let (text, names) := match s.last? 'e', s.operands with
    | some t, names => (some t, names)
    | none, t :: names => (some t, names)
    | none, [] => (none, [])
  match text with
  | none => do
    Program.say 2 ("Usage: grep [OPTION]... PATTERNS [FILE]...\n" ++
      "Try 'grep --help' for more information.\n")
    return 2
  | some text => do
    let lowered := fun (cs : List Char) => if s.has 'i' then cs.map Char.toLower else cs
    let fits := fun l => holds (lowered text.toList) (lowered l) != s.has 'v'
    let isNamed := names.length > 1
    let names := if names.isEmpty then ["-"] else names
    let (found, well) ← names.foldlM (fun (found, well) name => do
      match ← grepFile i fits name with
      | none => return (found, false)
      | some lines => do
        let before := if isNamed then name ++ ":" else ""
        let shown := if s.has 'c' then before ++ toString lines.length ++ "\n"
          else String.join (lines.map fun l =>
            before ++ (if s.has 'n' then toString l.1 ++ ":" else "") ++ l.2 ++ "\n")
        if !s.has 'q' then i.printOr 2 (ByteText.toBytes shown)
        return (found || !lines.isEmpty, well)) (false, true)
    return if found && (s.has 'q' || well) then 0 else if !well then 2 else 1

end LintRepair.Tools
