import LintRepair.Shell.Script
import LintRepair.Tools.Number

/-!
Sums of whole numbers of 64 bits, with variables that can be set inside them. Operations of the same
rank are done from the left. A part that decides nothing is read but sets no variables.
-/
namespace LintRepair.Shell.Sum
open Tools

inductive Operation where
  | times
  | divided
  | remainder
  | plus
  | minus
  | shiftLeft
  | shiftRight
  | less
  | atMost
  | greater
  | atLeast
  | equal
  | notEqual
  | bitAnd
  | bitXor
  | bitOr
deriving DecidableEq, Repr

inductive Token where
  | number (n : Int)
  | name (s : String)
  | operation (o : Operation)
  /-- Setting a variable, to its value and another one put together if so said. -/
  | assign (o : Option Operation)
  | both
  | either
  | not
  | complement
  | question
  | colon
  | opening
  | closing
  | unknown
deriving DecidableEq, Repr

inductive Fault where
  | bad (what : String)
  | noNumber (s : String)
  | readOnly (name : String)
deriving DecidableEq, Repr

def signs : List (String × Token) :=
  [("<<=", .assign (some .shiftLeft)), (">>=", .assign (some .shiftRight)),
    ("<<", .operation .shiftLeft), (">>", .operation .shiftRight), ("<=", .operation .atMost),
    (">=", .operation .atLeast), ("==", .operation .equal), ("!=", .operation .notEqual),
    ("*=", .assign (some .times)), ("/=", .assign (some .divided)),
    ("%=", .assign (some .remainder)), ("+=", .assign (some .plus)),
    ("-=", .assign (some .minus)), ("&=", .assign (some .bitAnd)), ("^=", .assign (some .bitXor)),
    ("|=", .assign (some .bitOr)), ("&&", .both), ("||", .either), ("<", .operation .less),
    (">", .operation .greater), ("=", .assign none), ("*", .operation .times),
    ("/", .operation .divided), ("%", .operation .remainder), ("+", .operation .plus),
    ("-", .operation .minus), ("&", .operation .bitAnd), ("^", .operation .bitXor),
    ("|", .operation .bitOr), ("!", .not), ("~", .complement), ("?", .question), (":", .colon),
    ("(", .opening), (")", .closing)]

/-- The tokens of a text. `fuel` bounds its characters. -/
def tokens : Nat → List Char → List Token
  | 0, _ => []
  | _, [] => []
  | fuel + 1, c :: cs =>
    if c = ' ' || c = '\t' || c = '\n' then tokens fuel cs
    else if c.isDigit then
      let r := scanNumber false (c :: cs)
      .number (clamped r.value) :: tokens fuel r.rest
    else if isNameStart c then
      .name (String.ofList ((c :: cs).takeWhile isNameChar)) ::
        tokens fuel ((c :: cs).dropWhile isNameChar)
    else
      match signs.find? (·.1.toList.isPrefixOf (c :: cs)) with
      | some (s, t) => t :: tokens fuel ((c :: cs).drop s.length)
      | none => [.unknown]

def Operation.rank : Operation → Nat
  | .times | .divided | .remainder => 0
  | .plus | .minus => 1
  | .shiftLeft | .shiftRight => 2
  | .less | .atMost | .greater | .atLeast => 3
  | .equal | .notEqual => 4
  | .bitAnd => 5
  | .bitXor => 6
  | .bitOr => 7

def ofBool (b : Bool) : Int := if b then 1 else 0

/-- The value of an operation; none for a division by zero. -/
def Operation.result? (o : Operation) (a b : Int) : Option Int :=
  let shift := (b.emod 64).toNat
  let bits := fun (f : Nat → Nat → Nat) => some (wrapped (f (unsigned a) (unsigned b) : Nat))
  match o with
  | .times => some (wrapped (a * b))
  | .divided => if b = 0 then none else some (wrapped (a.tdiv b))
  | .remainder => if b = 0 then none else some (wrapped (a.tmod b))
  | .plus => some (wrapped (a + b))
  | .minus => some (wrapped (a - b))
  | .shiftLeft => some (wrapped (a * ((1 <<< shift : Nat) : Int)))
  | .shiftRight => some (a.fdiv ((1 <<< shift : Nat) : Int))
  | .less => some (ofBool (a < b))
  | .atMost => some (ofBool (a ≤ b))
  | .greater => some (ofBool (a > b))
  | .atLeast => some (ofBool (a ≥ b))
  | .equal => some (ofBool (a = b))
  | .notEqual => some (ofBool (a ≠ b))
  | .bitAnd => bits (· &&& ·)
  | .bitXor => bits (· ^^^ ·)
  | .bitOr => bits (· ||| ·)

/-- The variables of a sum, and those that it has set, the last first. -/
structure Variables where
  value? : String → Option String
  isReadOnly : String → Bool
  set : List (String × Int) := []

/-- A step of the calculation: it takes tokens and may set variables. -/
abbrev Step := StateT (List Token × Variables) (Except Fault)

def fail {α : Type} (what : String) : Step α := fun _ => .error (.bad what)

/-- The number that a whole text writes; an empty one writes zero. -/
def numberIn? (s : String) : Option Int :=
  let r := scanNumber false s.toList
  if r.isThere then
    if r.rest.all isByteBlank && fits r.value then some r.value else none
  else if s.toList.all isByteBlank then some 0
  else none

def look (name : String) : Step Int := fun (ts, v) =>
  match v.set.lookup name with
  | some n => .ok (n, ts, v)
  | none =>
    match v.value? name with
    | none => .ok (0, ts, v)
    | some s =>
      match numberIn? s with
      | some n => .ok (n, ts, v)
      | none => .error (.noNumber s)

def put (name : String) (n : Int) : Step Unit := fun (ts, v) =>
  if v.isReadOnly name then .error (.readOnly name)
  else .ok ((), ts, { v with set := (name, n) :: v.set })

def peek? : Step (Option Token) := return (← get).1.head?

def drop : Step Unit := modify fun s => (s.1.tail, s.2)

def calculate (o : Operation) (a b : Int) : Step Int :=
  match o.result? a b with
  | some n => pure n
  | none => fail "division by zero"

mutual

/-- A number, a variable, a sum in parentheses, or one of these with a sign before it. -/
def atom (idle : Bool) : Nat → Step Int
  | 0 => fail "expecting primary"
  | fuel + 1 => do
    let t ← peek?
    drop
    match t with
    | some .opening =>
      let n ← assignment idle fuel
      if (← peek?) ≠ some .closing then fail "expecting ')'"
      else
        drop
        return n
    | some (.number n) => return n
    | some (.name s) => if idle then return 0 else look s
    | some (.operation .plus) => atom idle fuel
    | some (.operation .minus) => return wrapped (-(← atom idle fuel))
    | some .not => return ofBool ((← atom idle fuel) = 0)
    | some .complement => return -(← atom idle fuel) - 1
    | _ => fail "expecting primary"

def operations (idle : Bool) (bound : Nat) : Nat → Int → Step Int
  | 0, a => return a
  | fuel + 1, a => do
    match ← peek? with
    | some (.operation o) =>
      if o.rank < bound then
        drop
        let b ← atom idle fuel
        let b ← operations idle o.rank fuel b
        let n ← if idle then pure b else calculate o a b
        operations idle bound fuel n
      else return a
    | _ => return a

def conjunction (idle : Bool) : Nat → Step Int
  | 0 => fail "expecting primary"
  | fuel + 1 => do
    let a ← atom idle fuel
    let a ← operations idle 8 fuel a
    if (← peek?) = some .both then
      drop
      let b ← conjunction (idle || a = 0) fuel
      return ofBool (a ≠ 0 && b ≠ 0)
    else return a

def disjunction (idle : Bool) : Nat → Step Int
  | 0 => fail "expecting primary"
  | fuel + 1 => do
    let a ← conjunction idle fuel
    if (← peek?) = some .either then
      drop
      let b ← disjunction (idle || a ≠ 0) fuel
      return ofBool (a ≠ 0 || b ≠ 0)
    else return a

def choice (idle : Bool) : Nat → Step Int
  | 0 => fail "expecting primary"
  | fuel + 1 => do
    let a ← disjunction idle fuel
    if (← peek?) = some .question then
      drop
      let b ← assignment (idle || a = 0) fuel
      if (← peek?) ≠ some .colon then fail "expecting ':'"
      else
        drop
        let c ← choice (idle || a ≠ 0) fuel
        return if a ≠ 0 then b else c
    else return a

def assignment (idle : Bool) : Nat → Step Int
  | 0 => fail "expecting primary"
  | fuel + 1 => do
    match (← get).1 with
    | .name s :: .assign o :: _ =>
      drop
      drop
      let n ← assignment idle fuel
      if idle then return n
      else
        let n ← match o with
          | none => pure n
          | some o => do calculate o (← look s) n
        put s n
        return n
    | _ => choice idle fuel

end

def value (text : String) (v : Variables) : Except Fault (Int × List (String × Int)) :=
  let ts := tokens (text.length + 1) text.toList
  match (assignment false (8 * ts.length + 10)).run (ts, v) with
  | .error e => .error e
  | .ok (n, rest, v) =>
    if rest.isEmpty then .ok (n, v.set.reverse) else .error (.bad "expecting EOF")

end LintRepair.Shell.Sum
