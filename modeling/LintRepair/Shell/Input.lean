import LintRepair.Shell.Builtin

/-!
Reading a line into variables. The line is cut at the separators of the shell into as many fields as
there are variables; the last one takes all that is left.
-/
namespace LintRepair.Shell
open LintRepair.System

inductive LinePart where
  | char (c : Char)
  | escaped (c : Option Char)
deriving DecidableEq, Repr

/-- How far a line is read: its parts, the last first, and whether it ends here. -/
structure LineDraft where
  parts : List LinePart := []
  isEscaped : Bool := false
  isOver : Bool := false

def LineDraft.add (isRaw : Bool) (d : LineDraft) (c : Char) : LineDraft :=
  if c = '\x00' || d.isOver then d
  else if d.isEscaped then
    { d with isEscaped := false, parts := .escaped (if c = '\n' then none else some c) :: d.parts }
  else if c = '\\' && !isRaw then { d with isEscaped := true }
  else if c = '\n' then { d with isOver := true }
  else { d with parts := .char c :: d.parts }

/-- How far a line is cut. Characters and fields come in reverse. -/
structure LineCut where
  done : List (List Char) := []
  current : List Char := []
  stop? : Option Nat := none
  isGap : Bool := false
  left : Nat

def LineCut.char (separators : List Char) (k : LineCut) (c : Char) : LineCut :=
  let isSeparator := separators.contains c
  let isBlank := isSeparator && (c = ' ' || c = '\t' || c = '\n')
  let put := fun (k : LineCut) => { k with current := c :: k.current }
  if k.left = 0 then
    if isBlank then put { k with stop? := some (k.stop?.getD k.current.length) }
    else put { k with stop? := if isSeparator && k.isGap then k.stop? else none, isGap := false }
  else if k.isGap && isBlank then k
  else if k.isGap && isSeparator then { k with isGap := false }
  else if isSeparator then
    if k.current.isEmpty && isBlank then { k with isGap := false }
    else if k.left = 1 then
      put { k with stop? := some k.current.length, isGap := isBlank, left := 0 }
    else
      { k with done := k.current :: k.done, current := [], isGap := isBlank, left := k.left - 1 }
  else put { k with isGap := false }

def LineCut.add (separators : List Char) (k : LineCut) : LinePart → LineCut
  | .char c => k.char separators c
  | .escaped c => { k with isGap := false, current := c.toList ++ k.current }

def fieldsOfLine (separators : List Char) (most : Nat) (parts : List LinePart) : List String :=
  let k := parts.foldl (LineCut.add separators) { left := most }
  let last := match k.stop? with
    | some n => k.current.reverse.take n
    | none => k.current.reverse
  (k.done.reverse.map (·.reverse) ++ if last.isEmpty then [] else [last]).map String.ofList

namespace Action

/-- Reading a line. The answer is also whether it has an end. `fuel` bounds the pieces. -/
def readParts (isRaw : Bool) : Nat → LineDraft → Action (List LinePart × Bool)
  | 0, d => return (d.parts.reverse, false)
  | fuel + 1, d => do
    match ← ask (Program.readLine 0) with
    | .ok (b :: bytes) =>
      let d := (ByteText.ofBytes (b :: bytes)).toList.foldl (LineDraft.add isRaw) d
      if d.isOver then return (d.parts.reverse, true) else readParts isRaw fuel d
    | _ => return (d.parts.reverse, false)

def setFields : List String → List String → Action Unit
  | [], _ => return
  | name :: names, fields => do
    setVariable name (some (fields.headD ""))
    setFields names fields.tail

end Action

def read : Builtin := fun c => do
  let (found, names) ← Action.options "p:r" c.words
  if names.isEmpty then Action.fail "arg count"
  else
    let (parts, hasEnd) ← Action.readParts (found.any (·.1 = 'r')) Tools.roundLimit {}
    let s ← get
    Action.setFields names (fieldsOfLine s.separators.toList names.length parts)
    return if hasEnd then 0 else 1

end LintRepair.Shell
