import LintRepair.Shell.Builtin
import LintRepair.Tools.Escape
import LintRepair.Tools.Format

/-!
Printing words with the shell's own commands. What they print comes at their end, behind what is
told about bad words.
-/
namespace LintRepair.Shell
open LintRepair.System LintRepair.Tools

/-- An escape of a format: a letter, or up to three octal digits. -/
def shortEscape (cs : List Char) : Char × List Char :=
  match cs with
  | c :: rest =>
    if isDigitOf 8 c then digitByte 8 3 cs
    else
      match escapeLetter? c with
      | some d => (d, rest)
      | none => ('\\', cs)
  | [] => ('\\', [])

/-- An escape of a word: a zero may stand before octal digits, and printing may stop. -/
def wordEscape (cs : List Char) : Escape :=
  let short := fun cs =>
    let (c, rest) := shortEscape cs
    Escape.char c rest
  match cs with
  | 'c' :: _ => .stop
  | '0' :: d :: ds => short (if isDigitOf 8 d then d :: ds else cs)
  | cs => short cs

def echo : Builtin := fun c => do
  let (words, ending) := match c.words with
    | "-n" :: words => (words, [])
    | words => (words, ['\n'])
  let (cs, stops) := readEscapes wordEscape (" ".intercalate words)
  Action.print (String.ofList (cs ++ if stops then [] else ending))

/-- How far a format was gone through: what is to be printed, the last character first, the words
that are left, and whether something was wrong with one. -/
structure Progress where
  printed : List Char := []
  words : List String
  status : Nat := 0
  isOver : Bool := false

namespace Progress

def put (p : Progress) (cs : List Char) : Progress := { p with printed := cs.reverse ++ p.printed }

def next (p : Progress) : Progress := { p with words := p.words.tail }

def word (p : Progress) : String := p.words.headD ""

end Progress

namespace Action

/-- The code of the character behind a quotation mark that a word starts with. -/
def charCode? (w : String) : Option Nat :=
  match w.toList with
  | q :: cs => if q = '\'' || q = '"' then some ((cs.head?.map Char.toNat).getD 0) else none
  | [] => none

def checkNumber (w : String) (isThere inRange : Bool) (rest : List Char) (p : Progress) :
    Action Progress := do
  if !rest.isEmpty then
    complain (w ++ (if isThere then ": not completely converted" else ": expected numeric value"))
    return { p with status := 1 }
  else if !inRange then
    complain (w ++ ": Numerical result out of range")
    return { p with status := 1 }
  else return p

def takeWhole (isSigned : Bool) (p : Progress) : Action (Int × Progress) := do
  if p.words.isEmpty then return (0, p)
  else
    match charCode? p.word with
    | some n => return (n, p.next)
    | none =>
      let r := scanNumber false p.word.toList
      let inRange := if isSigned then fits r.value
        else r.value < wordCount && -wordCount < r.value
      let value := if isSigned then clamped r.value else if inRange then r.value else wordCount - 1
      return (value, ← checkNumber p.word r.isThere inRange r.rest p.next)

def takeReal (p : Progress) : Action (Tools.Real × Progress) := do
  if p.words.isEmpty then return (⟨false, .finite 0 0⟩, p)
  else
    match charCode? p.word with
    | some n => return (⟨false, .finite n 0⟩, p.next)
    | none =>
      match readReal? .double p.word.toList with
      | some r => return (r.value, ← checkNumber p.word true r.inRange r.rest p.next)
      | none =>
        return (⟨false, .finite 0 0⟩, ← checkNumber p.word false true p.word.toList p.next)

def shortNumber (n : Int) : Int := (n + 2147483648).emod 4294967296 - 2147483648

/-- A number inside a directive: none if nothing is written, the next word for a star. The answer is
also what follows it. -/
def takeAmount (cs : List Char) (p : Progress) :
    Action (Option Int × List Char × Progress) := do
  match cs with
  | '*' :: rest =>
    let (n, p) ← takeWhole true p
    return (some (shortNumber n), rest, p)
  | cs =>
    let digits := cs.takeWhile Char.isDigit
    return (if digits.isEmpty then none else some (digitsValue 10 digits : Nat),
      cs.drop digits.length, p)

/-- The format can not be used. What was to be printed before is printed all the same. -/
def badFormat {α : Type} (what : String) (p : Progress) : Action α := do
  complain what
  let _ ← print (String.ofList p.printed.reverse)
  modify fun s => { s with status := 2 }
  throw .failed

/-- A directive behind its percent sign. The answer is also the format behind it. -/
def directive (cs : List Char) (p : Progress) : Action (List Char × Progress) := do
  let flags := cs.takeWhile fun c => "#-+ 0".toList.contains c
  let (width, rest, p) ← takeAmount (cs.drop flags.length) p
  let (precision, rest, p) ← match rest with
    | '.' :: more => do
      let (n, rest, p) ← takeAmount more p
      pure (some (n.getD 0), rest, p)
    | rest => pure (none, rest, p)
  match rest with
  | [] => badFormat "missing format character" p
  | kind :: rest =>
    let d : Directive := { flags := flags, kind := kind }
    let d := d.withWidth (width.getD 0)
    let d := match precision with
      | some n => d.withPrecision n
      | none => d
    if kind = 'b' then
      let (text, stops) := readEscapes wordEscape p.word
      return (rest, { (p.put (d.text text)).next with isOver := stops })
    else if kind = 'c' then
      return (rest, (p.put (d.blanks [p.word.toList.headD '\x00'])).next)
    else if kind = 's' then return (rest, (p.put (d.text p.word.toList)).next)
    else if kind = 'd' || kind = 'i' then
      let (n, p) ← takeWhole true p
      return (rest, p.put (d.whole n))
    else if kind = 'o' || kind = 'u' || kind = 'x' || kind = 'X' then
      let (n, p) ← takeWhole false p
      return (rest, p.put (d.whole n))
    else if "aAeEfFgG".toList.contains kind then
      let (x, p) ← takeReal p
      return (rest, p.put (d.real .double x))
    else
      let written := String.ofList (cs.take (cs.length - rest.length))
      badFormat ("%" ++ written ++ ": invalid directive") p

/-- Going once through a format. `fuel` bounds its characters. -/
def formatOnce : Nat → List Char → Progress → Action Progress
  | 0, _, p => return p
  | _, [], p => return p
  | fuel + 1, '\\' :: cs, p =>
    let (c, rest) := shortEscape cs
    formatOnce fuel rest (p.put [c])
  | fuel + 1, '%' :: '%' :: cs, p => formatOnce fuel cs (p.put ['%'])
  | fuel + 1, '%' :: cs, p => do
    let (rest, p) ← directive cs p
    if p.isOver then return p else formatOnce fuel rest p
  | fuel + 1, c :: cs, p => formatOnce fuel cs (p.put [c])

/-- Going through a format until all words are used, or none is. `fuel` bounds the words. -/
def formatAll (format : List Char) : Nat → Progress → Action Progress
  | 0, p => return p
  | fuel + 1, p => do
    let q ← formatOnce (format.length + 1) format p
    if q.isOver || q.words.isEmpty || q.words.length = p.words.length then return q
    else formatAll format fuel q

end Action

def printf : Builtin := fun c => do
  let (_, words) ← Action.options "" c.words
  match words with
  | [] => Action.fail "usage: printf format [arg ...]"
  | format :: words =>
    let p ← Action.formatAll format.toList (words.length + 1) { words := words }
    let r ← Action.print (String.ofList p.printed.reverse)
    return p.status ||| r

end LintRepair.Shell
