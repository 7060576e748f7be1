import LintRepair.Tools.Basic

/-!
Options among the words of a command: letters behind a dash, several of them in one word, and names
behind two dashes, which may be shortened as long as they stay clear. Options and other words may
come in any order; two dashes alone end the options.
-/
namespace LintRepair.Tools
open LintRepair.System

inductive Takes where
  | nothing
  | something
  | maybe
deriving DecidableEq, Repr

/-- The options of a tool: their letters, and the names that stand for letters. -/
structure OptionTable where
  letters : List (Char × Takes)
  names : List (String × Takes × Char) := []
  inOrder : Bool := false

abbrev Given := Char × String

structure Sorted where
  options : List Given := []
  operands : List String := []
  fault : Option String := none

namespace Sorted

def has (s : Sorted) (c : Char) : Bool := s.options.any (·.1 = c)

def last? (s : Sorted) (c : Char) : Option String :=
  (s.options.reverse.find? (·.1 = c)).map (·.2)

end Sorted

/-- The letters of a word of options, the word behind it being the next one. The answer tells whether
that word was taken. -/
def letters (t : OptionTable) (next : Option String) :
    List Char → Except String (List Given × Bool)
  | [] => .ok ([], false)
  | c :: cs =>
    match t.letters.lookup c with
    | none => .error ("invalid option -- '" ++ String.ofList [c] ++ "'")
    | some .nothing | some .maybe => (letters t next cs).map fun r => ((c, "") :: r.1, r.2)
    | some .something =>
      if !cs.isEmpty then .ok ([(c, String.ofList cs)], false)
      else
        match next with
        | some w => .ok ([(c, w)], true)
        | none => .error ("option requires an argument -- '" ++ String.ofList [c] ++ "'")

/-- The names that a name may be short for: itself if it is one of them. -/
def OptionTable.fitting (t : OptionTable) (name : String) : List (String × Takes × Char) :=
  match t.names.find? (·.1 = name) with
  | some n => [n]
  | none => t.names.filter fun n => name.toList.isPrefixOf n.1.toList

def named (t : OptionTable) (next : Option String) (text : List Char) :
    Except String (Given × Bool) :=
  let name := String.ofList (text.takeWhile (· ≠ '='))
  let value := text.dropWhile (· ≠ '=')
  let found := t.fitting name
  match found with
  | [] => .error ("unrecognized option '--" ++ String.ofList text ++ "'")
  | (full, takes, c) :: more =>
    if more.any fun n => n.2.2 ≠ c then
      .error ("option '--" ++ String.ofList text ++ "' is ambiguous; possibilities:" ++
        String.join (found.map fun n => " '--" ++ n.1 ++ "'"))
    else
      match takes, value with
      | .nothing, [] | .maybe, [] => .ok ((c, ""), false)
      | .nothing, _ => .error ("option '--" ++ full ++ "' doesn't allow an argument")
      | _, _ :: v => .ok ((c, String.ofList v), false)
      | .something, [] =>
        match next with
        | some w => .ok ((c, w), true)
        | none => .error ("option '--" ++ full ++ "' requires an argument")

def Sorted.before (sorted : List String → Sorted) (ws : List String) :
    Except String (List Given × Bool) → Sorted
  | .error what => { fault := some what }
  | .ok (given, taken) =>
    let rest := sorted (if taken then ws.tail else ws)
    { rest with options := given ++ rest.options }

/-- The words of a command sorted, up to a fault. `fuel` bounds the words. -/
def sortWords (t : OptionTable) : Nat → List String → Sorted
  | 0, _ => {}
  | _, [] => {}
  | fuel + 1, w :: ws =>
    let goOn := Sorted.before (sortWords t fuel) ws
    if w = "--" then { operands := ws }
    else
      match w.toList with
      | '-' :: '-' :: text => goOn ((named t ws.head? text).map fun r => ([r.1], r.2))
      | '-' :: c :: cs => goOn (letters t ws.head? (c :: cs))
      | _ =>
        let rest := if t.inOrder then { operands := ws } else sortWords t fuel ws
        { rest with operands := w :: rest.operands }

/-- The options and words of a command; a fault ends the tool with a status. -/
def Invocation.sorted (i : Invocation) (t : OptionTable) (status : Nat) : Program Sorted := do
  let s := sortWords t (i.words.length + 1) i.words
  match s.fault with
  | none => return s
  | some what => do
    i.complain what
    i.refer status

def flags (s : String) : List (Char × Takes) := s.toList.map fun c => (c, .nothing)

end LintRepair.Tools
