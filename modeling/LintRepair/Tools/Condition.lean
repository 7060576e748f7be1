import LintRepair.Tools.Basic
import LintRepair.Tools.Number

/-!
Conditions on texts, numbers and files, written as words. How the words are read depends on their
number: up to four of them mean the same whatever texts they hold.
-/
namespace LintRepair.Tools
open LintRepair.System

inductive Comparison where
  | same
  | different
  | number (holds : Int → Int → Bool)
  | newer
  | older
  | sameFile

def comparison? (w : String) : Option Comparison :=
  [("=", Comparison.same), ("==", .same), ("!=", .different),
    ("-eq", .number (· = ·)), ("-ne", .number (· ≠ ·)), ("-lt", .number (· < ·)),
    ("-le", .number (· ≤ ·)), ("-gt", .number (· > ·)), ("-ge", .number (· ≥ ·)),
    ("-nt", .newer), ("-ot", .older), ("-ef", .sameFile)].lookup w

structure Words where
  left : List String
  last : String

/-- A step of judging a condition: it takes words and may fail. -/
abbrev Judging := StateT Words (ExceptT String Program)

namespace Judging

def fail {α : Type} (what : String) : Judging α := fun _ => (pure (.error what) : Program _)

def ask {α : Type} (p : Program α) : Judging α := fun s => (do
  let a ← p
  return .ok (a, s) : Program _)

def beyond {α : Type} : Judging α := do
  fail ("missing argument after " ++ quoted (← get).last)

def take : Judging String := do
  let s ← get
  match s.left with
  | [] => return ""
  | w :: ws =>
    set { s with left := ws }
    return w

def takeBefore : Judging String := do
  let w ← take
  if (← get).left.isEmpty then beyond else return w

def numberOf (w : String) : Judging Int := do
  let cs := w.toList.dropWhile isByteBlank
  let digits := match cs with
    | '+' :: ds => ds
    | '-' :: ds => ds
    | ds => ds
  let rest := (digits.dropWhile Char.isDigit).dropWhile isByteBlank
  if digits.head?.any Char.isDigit && rest.isEmpty then
    let n : Int := digitsValue 10 (digits.takeWhile Char.isDigit)
    return if cs.head? = some '-' then -n else n
  else fail ("invalid integer " ++ quoted w)

def look (name : String) : Judging (Option Channel) := do
  return (← ask (Program.look name)).toOption

def compare (c : Comparison) (a b : String) (lengths : Bool × Bool) : Judging Bool := do
  match c with
  | .same => return a = b
  | .different => return a ≠ b
  | .number holds =>
    let x ← if lengths.1 then pure (a.length : Int) else numberOf a
    let y ← if lengths.2 then pure (b.length : Int) else numberOf b
    return holds x y
  | .newer => return (← look a).isSome && (← look b).isNone
  | .older => return (← look a).isNone && (← look b).isSome
  | .sameFile =>
    match ← look a, ← look b with
    | some x, some y => return x.file?.isSome && x.file? = y.file?
    | _, _ => return false

def unary : Judging Bool := do
  match (← get).left with
  | [] => return false
  | op :: _ =>
    let file := fun (p : Channel → Bool) => do
      let _ ← takeBefore
      let name ← take
      return ((← look name).map p).getD false
    let ofKind := fun (p : Kind → Bool) => file fun c => p c.kind
    match op with
    | "-z" =>
      let _ ← takeBefore
      return (← take) = ""
    | "-n" =>
      let _ ← takeBefore
      return (← take) ≠ ""
    | "-e" | "-r" | "-w" | "-O" | "-G" => file fun _ => true
    | "-f" => ofKind fun k => match k with
        | .file _ => true
        | _ => false
    | "-d" | "-x" => ofKind (· = .directory)
    | "-s" => ofKind fun k => match k with
        | .file n => n > 0
        | .directory => true
        | _ => false
    | "-c" => ofKind (· = .device)
    | "-p" => ofKind (· = .pipe)
    | "-b" | "-h" | "-L" | "-S" | "-u" | "-g" | "-k" | "-N" => file fun _ => false
    | "-t" =>
      let _ ← takeBefore
      let _ ← numberOf (← take)
      return false
    | op => fail (quoted op ++ ": unary operator expected")

def isUnaryShape (w : String) : Bool :=
  match w.toList with
  | ['-', _] => true
  | _ => false

/-- A condition with an operator between two words, of which some stand for their lengths. -/
def binary (leftLength : Bool) : Judging Bool := do
  if leftLength then
    let _ ← take
  let a ← take
  let op ← take
  let rightLength := (← get).left.head? = some "-l" && (← get).left.length > 1
  if rightLength then
    let _ ← take
  if (← get).left.isEmpty then beyond
  else
    let b ← take
    match comparison? op with
    | some c => compare c a b (leftLength, rightLength)
    | none => return false

def single : Judging Bool := return (← take) ≠ ""

def double : Judging Bool := do
  match (← get).left with
  | "!" :: _ =>
    let _ ← take
    return !(← single)
  | w :: _ => if isUnaryShape w then unary else beyond
  | [] => beyond

mutual

def triple : Nat → Judging Bool
  | 0 => return false
  | fuel + 1 => do
    match (← get).left with
    | a :: op :: c :: _ =>
      if (comparison? op).isSome then binary false
      else if a = "!" then
        let _ ← takeBefore
        return !(← double)
      else if a = "(" && c = ")" then
        let _ ← take
        let r ← single
        let _ ← take
        return r
      else if op = "-a" || op = "-o" then disjunction fuel
      else fail (quoted op ++ ": binary operator expected")
    | _ => beyond

def counted : Nat → Nat → Judging Bool
  | 0, _ => return false
  | fuel + 1, count => do
    match count with
    | 1 => single
    | 2 => double
    | 3 => triple fuel
    | 4 =>
      match (← get).left with
      | "!" :: _ =>
        let _ ← takeBefore
        return !(← triple fuel)
      | "(" :: _ :: _ :: ")" :: _ =>
        let _ ← take
        let r ← double
        let _ ← take
        return r
      | _ => disjunction fuel
    | _ => disjunction fuel

def term : Nat → Judging Bool
  | 0 => return false
  | fuel + 1 => do
    match (← get).left with
    | [] => beyond
    | "!" :: _ =>
      let _ ← takeBefore
      return !(← term fuel)
    | "(" :: _ =>
      let _ ← takeBefore
      let left := (← get).left
      let inside := 1 + ((left.drop 1).takeWhile (· ≠ ")")).length
      let r ← counted fuel (if inside > 4 then left.length else inside)
      match (← get).left with
      | [] => fail "')' expected"
      | w :: _ =>
        if w = ")" then
          let _ ← take
          return r
        else fail ("')' expected, found " ++ quoted w)
    | w :: ws =>
      let isComparison := fun (n : Nat) => ((ws[n]?).bind comparison?).isSome
      if w = "-l" && ws.length ≥ 3 && isComparison 1 then binary true
      else if ws.length ≥ 2 && isComparison 0 then binary false
      else if isUnaryShape w then unary
      else single

def conjunction : Nat → Judging Bool
  | 0 => return false
  | fuel + 1 => do
    let r ← term fuel
    if (← get).left.head? = some "-a" then
      let _ ← take
      return (← conjunction fuel) && r
    else return r

def disjunction : Nat → Judging Bool
  | 0 => return false
  | fuel + 1 => do
    if (← get).left.isEmpty then beyond
    else
      let r ← conjunction fuel
      if (← get).left.head? = some "-o" then
        let _ ← take
        return (← disjunction' fuel) || r
      else return r

def disjunction' : Nat → Judging Bool
  | 0 => return false
  | fuel + 1 => do
    let r ← conjunction fuel
    if (← get).left.head? = some "-o" then
      let _ ← take
      return (← disjunction' fuel) || r
    else return r

end

def whole (words : List String) : Judging Bool := do
  let r ← counted (4 * words.length + 8) words.length
  match (← get).left with
  | [] => return r
  | w :: _ => fail ("extra argument " ++ quoted w)

end Judging

def judge (i : Invocation) (words : List String) : Program Nat := do
  if words.isEmpty then return 1
  else
    match ← ((Judging.whole words).run ⟨words, words.getLast?.getD ""⟩).run with
    | .ok (holds, _) => return if holds then 0 else 1
    | .error what => do
      i.complain what
      return 2

def test : Tool := fun i => judge i i.words

def bracket : Tool := fun i => do
  if i.words.getLast? = some "]" then judge i i.words.dropLast
  else
    i.complain "missing ']'"
    return 2

end LintRepair.Tools
