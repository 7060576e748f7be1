import LintRepair.Text.Alphanumeric
import LintRepair.Text.Lines
import LintRepair.Text.Utf8

/-!
Environments, and files that add variables to them. A variable that is set already keeps its value.
A statement of such a file is a line, or several where quotes are open at a line's end; the first
statement that can not be read ends the reading, and those before it count.
-/
namespace LintRepair

/-- Variables with their values; the first of a name counts. -/
abbrev Environment := List (String × String)

namespace EnvFile
open Text

inductive Mode where
  | complete
  | escape
  | strong
  | strongEscape
  | weak
  | weakEscape
  | blank
deriving DecidableEq, Repr

def Mode.step (m : Mode) (c : Char) : Mode :=
  let plain : Mode :=
    if c = '\\' then .escape
    else if c = '"' then .weak
    else if c = '\'' then .strong
    else .complete
  match m with
  | .blank => plain
  | .escape => .complete
  | .complete => if isBlank c && c ≠ '\n' && c ≠ '\r' then .blank else plain
  | .weak => if c = '\\' then .weakEscape else if c = '"' then .complete else .weak
  | .weakEscape => .weak
  | .strong => if c = '\\' then .strongEscape else if c = '\'' then .complete else .strong
  | .strongEscape => .strong

/-- The part of a line before a comment, the mode at its end, and whether a comment was there. -/
def upToComment : Mode → List Char → List Char × Mode × Bool
  | m, [] => ([], m, false)
  | m, c :: cs =>
    if m = .blank && c = '#' then ([], m, true)
    else
      let r := upToComment (m.step c) cs
      (c :: r.1, r.2)

def dropLineEnd (cs : List Char) : List Char :=
  if cs.getLast? = some '\n' then dropCarriageReturn cs.dropLast else cs

/-- The statements of lines that keep their line ends, the start of the first being read already.
`none` stands for a statement that can not be read. -/
def statementsAfter (m : Mode) (start : List Char) : List (Option (List Char)) →
    List (Option (List Char))
  | [] => if m = .complete then [] else [none]
  | none :: _ => [none]
  | some line :: more =>
    if (trimStart (start ++ line)).head? = some '#' then
      some [] :: statementsAfter .complete [] more
    else
      let r := upToComment m line
      if r.2.2 then some (start ++ r.1) :: statementsAfter .complete [] more
      else if r.2.1 = .complete then
        some (dropLineEnd (start ++ line)) :: statementsAfter .complete [] more
      else statementsAfter r.2.1 (start ++ line) more

/-- Bytes cut behind each line feed; what stands behind the last one is none if it is empty. -/
def byteLines (line : List UInt8) : List UInt8 → List (List UInt8)
  | [] => if line.isEmpty then [] else [line.reverse]
  | b :: bs => if b = 10 then (b :: line).reverse :: byteLines [] bs else byteLines (b :: line) bs

/-- The statements of a file. A byte order mark at its start does not count. -/
def statements (bytes : List UInt8) : List (Option (List Char)) :=
  let bytes := match bytes with
    | 0xEF :: 0xBB :: 0xBF :: rest => rest
    | bytes => bytes
  statementsAfter .complete [] ((byteLines [] bytes).map Utf8.decode?)

/-- What a file can refer to: the environment so far, and what the file itself has set. -/
structure Scope where
  environment : Environment
  /-- The last value that the file gives to a name, whether it counts or not. -/
  own : Environment := []
deriving Repr

def Scope.value (s : Scope) (name : List Char) : List Char :=
  let name := String.ofList name
  (((s.environment.lookup name).orElse fun _ => s.own.lookup name).getD "").toList

inductive Naming where
  | none
  | bare
  | braced
deriving DecidableEq, Repr

/-- How far a value has been read. Texts are in reverse. -/
structure Reading where
  strong : Bool := false
  weak : Bool := false
  escaped : Bool := false
  ended : Bool := false
  naming : Naming := .none
  name : List Char := []
  output : List Char := []

namespace Reading

def settle (r : Reading) (s : Scope) : Reading :=
  { r with output := (s.value r.name.reverse).reverse ++ r.output, name := [], naming := .none }

def push (r : Reading) (c : Char) : Reading := { r with output := c :: r.output }

def escape? (r : Reading) (c : Char) : Option Reading :=
  let r := { r with escaped := false }
  if c = '\\' || c = '\'' || c = '"' || c = '$' || c = ' ' then some (r.push c)
  else if c = 'n' then some (r.push '\n')
  else none

def nameStep (s : Scope) (r : Reading) (c : Char) : Reading :=
  if isAlphanumeric c then { r with name := c :: r.name }
  else if r.naming = .braced then
    if c = '\x7d' then r.settle s else { r with name := c :: r.name }
  else if c = '\x7b' && r.name.isEmpty then { r with naming := .braced }
  else if c = '$' then { r.settle s with naming := .bare }
  else (r.settle s).push c

def plainStep (r : Reading) (c : Char) : Reading :=
  if c = '$' then { r with naming := .bare }
  else if r.weak then
    if c = '"' then { r with weak := false }
    else if c = '\\' then { r with escaped := true }
    else r.push c
  else if c = '\'' then { r with strong := true }
  else if c = '"' then { r with weak := true }
  else if c = '\\' then { r with escaped := true }
  else if c = ' ' || c = '\t' then { r with ended := true }
  else r.push c

def run? (s : Scope) (r : Reading) : List Char → Option Reading
  | [] => some r
  | c :: cs =>
    if r.ended then
      if c = ' ' || c = '\t' then run? s r cs else if c = '#' then some r else none
    else if r.escaped then (r.escape? c).bind fun r => run? s r cs
    else if r.strong then
      run? s (if c = '\'' then { r with strong := false } else r.push c) cs
    else if r.naming ≠ .none then run? s (r.nameStep s c) cs
    else run? s (r.plainStep c) cs

end Reading

def value? (s : Scope) (cs : List Char) : Option String :=
  (Reading.run? s {} cs).bind fun r =>
    if r.naming = .braced || r.strong || r.weak then none
    else some (String.ofList (r.settle s).output.reverse)

def name? (cs : List Char) : Option (List Char × List Char) :=
  let isInner := fun (c : Char) => c.isAlphanum || c = '_' || c = '.'
  if cs.head?.any fun c => c.isAlpha || c = '_' then
    some (cs.takeWhile isInner, cs.dropWhile isInner)
  else none

/-- The name that a statement sets and what stands behind its equals sign. A name may have `export`
before it. -/
def split? (cs : List Char) : Option (List Char × List Char) :=
  match name? cs with
  | none => none
  | some (name, rest) =>
    match trimStart rest with
    | '=' :: value => some (name, trimStart value)
    | rest =>
      if name = "export".toList then
        match name? rest with
        | none => none
        | some (name, rest) =>
          match trimStart rest with
          | '=' :: value => some (name, trimStart value)
          | _ => none
      else none

/-- The assignment of a statement; none if it sets nothing. -/
def assignment? (s : Scope) (statement : List Char) : Option (Option (String × String)) :=
  let cs := trim statement
  if cs.isEmpty || cs.head? = some '#' then some none
  else
    match split? cs with
    | none => none
    | some (name, value) =>
      if value.isEmpty || value.head? = some '#' then some (some (String.ofList name, ""))
      else (value? s value).map fun v => some (String.ofList name, v)

def Scope.set (s : Scope) (name value : String) : Scope :=
  { environment :=
      if (s.environment.lookup name).isSome then s.environment
      else s.environment ++ [(name, value)]
    own := (name, value) :: s.own }

def follow (s : Scope) : List (Option (List Char)) → Scope
  | [] => s
  | none :: _ => s
  | some statement :: more =>
    match assignment? s statement with
    | none => s
    | some none => follow s more
    | some (some (name, value)) => follow (s.set name value) more

def load (environment : Environment) (bytes : List UInt8) : Environment :=
  (follow { environment := environment } (statements bytes)).environment

end EnvFile
end LintRepair
