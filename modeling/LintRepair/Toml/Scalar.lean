import LintRepair.Text.Split
import LintRepair.Toml.Value

/-!
TOML values that are written in one word: truth values, numbers, dates and times.
-/
namespace LintRepair.Toml
open Text

def digitValue (c : Char) : Nat :=
  if c.isDigit then c.toNat - 48
  else if 'a' ≤ c ∧ c ≤ 'f' then c.toNat - 87
  else if 'A' ≤ c ∧ c ≤ 'F' then c.toNat - 55
  else 16

def number (base : Nat) (cs : List Char) : Nat :=
  (cs.filter (· ≠ '_')).foldl (fun n c => n * base + digitValue c) 0

def signed : List Char → Bool × List Char
  | '-' :: cs => (true, cs)
  | '+' :: cs => (false, cs)
  | cs => (false, cs)

/-- Underscores stand only between digits of a base. A sign alone before one is let through. -/
def underscoresFit (base : Nat) (cs : List Char) : Bool :=
  let parts := split '_' cs
  let isMark := fun c => digitValue c < base
  parts.tail.all (fun part => part.head?.any isMark) &&
    parts.dropLast.all fun part => part.length = 1 || part.getLast?.any isMark

/-- The whole number of a word that was taken for one. Signs and digits that do not belong there
show only here. -/
def wholeNumber (base : Nat) (cs : List Char) : Value :=
  let (negative, ds) := signed (cs.filter (· ≠ '_'))
  if ds.isEmpty || !ds.all (digitValue · < base) then .noNumber
  else .integer (if negative then -(number base ds : Int) else number base ds)

/-- A whole number in base ten. Between its underscores any digit up to `f` may stand. -/
def decimal? (cs : List Char) : Option Value :=
  let ds := (signed cs).2
  if ds ≠ ['0'] && ds.head? = some '0' then none
  else if underscoresFit 16 cs then some (wholeNumber 10 cs)
  else none

def based? (base : Nat) (cs : List Char) : Option Value :=
  if cs.all (fun c => digitValue c < base || c = '_') && underscoresFit 16 cs then
    some (wholeNumber base cs)
  else none

def floatBound : Nat := Nat.pow 2 1024 - Nat.pow 2 970

/-- The mantissa times the power of ten does not leave the range of floating-point numbers. -/
def isFinite (mantissa : Nat) (exponent : Int) : Bool :=
  let top := (toString mantissa).length + exponent
  if mantissa = 0 || top < 300 then true
  else if top > 320 then false
  else if exponent < 0 then mantissa < floatBound * Nat.pow 10 exponent.natAbs
  else mantissa * Nat.pow 10 exponent.natAbs < floatBound

/-- The digits and underscores at the start that make a number, and what follows them. Needless
zeros may come first only where `padded` says so. -/
def digitRun? (padded : Bool) (cs : List Char) : Option (List Char × List Char) :=
  let isMark := fun (c : Char) => c.isDigit || c = '_'
  let digits := (cs.takeWhile isMark).filter (· ≠ '_')
  if digits.isEmpty || (!padded && digits.length > 1 && cs.head? = some '0') then none
  else some (digits, cs.dropWhile isMark)

/-- The digits of a fraction behind its point, if there is one, and what follows them. -/
def fraction? : List Char → Option (List Char × List Char)
  | '.' :: cs => digitRun? true cs
  | cs => some ([], cs)

/-- The exponent behind its mark, and nothing after it. Without one it is zero. -/
def exponent? : List Char → Option Int
  | [] => some 0
  | c :: cs =>
    let (down, power) := signed cs
    match if c = 'e' || c = 'E' then digitRun? true power else none with
    | some (digits, []) => some (if down then -(number 10 digits : Int) else number 10 digits)
    | _ => none

def float? (cs : List Char) : Option Value :=
  match digitRun? false (signed cs).2 with
  | none => none
  | some (whole, rest) =>
    match fraction? rest with
    | none => none
    | some (fraction, rest) =>
      (exponent? rest).bind fun exponent =>
        if underscoresFit 10 cs then
          some (.float (isFinite (number 10 (whole ++ fraction)) (exponent - fraction.length)))
        else none

/-- Two digits that stand for at most `most`, and what follows them. -/
def two? (most : Nat) : List Char → Option (Nat × List Char)
  | a :: b :: cs =>
    if a.isDigit && b.isDigit && number 10 [a, b] ≤ most then some (number 10 [a, b], cs) else none
  | _ => none

def monthDays (year month : Nat) : Nat :=
  if month = 2 then if year % 4 = 0 && (year % 100 ≠ 0 || year % 400 = 0) then 29 else 28
  else if month = 4 || month = 6 || month = 9 || month = 11 then 30
  else 31

def afterDate? : List Char → Option (List Char)
  | a :: b :: c :: d :: '-' :: cs =>
    if [a, b, c, d].all Char.isDigit then
      match two? 12 cs with
      | some (month, '-' :: cs) =>
        match two? (monthDays (number 10 [a, b, c, d]) month) cs with
        | some (day, cs) => if month = 0 || day = 0 then none else some cs
        | none => none
      | _ => none
    else none
  | _ => none

/-- What follows a time. Seconds and their fraction may be left out. -/
def afterTime? (cs : List Char) : Option (List Char) :=
  match two? 23 cs with
  | some (_, ':' :: cs) =>
    match two? 59 cs with
    | some (_, ':' :: cs) =>
      match two? 60 cs with
      | some (_, '.' :: cs) =>
        if cs.head?.any Char.isDigit then some (cs.dropWhile Char.isDigit) else none
      | some (_, cs) => some cs
      | none => none
    | some (_, cs) => some cs
    | none => none
  | _ => none

def isOffset : List Char → Bool
  | [] => true
  | [c] => c = 'Z' || c = 'z'
  | c :: cs =>
    (c = '+' || c = '-') &&
      match two? 23 cs with
      | some (_, ':' :: cs) =>
        match two? 59 cs with
        | some (_, []) => true
        | _ => false
      | _ => false

def isMoment (cs : List Char) : Bool :=
  match afterDate? cs with
  | some [] => true
  | some (c :: cs) =>
    (c = 'T' || c = 't' || c = ' ') &&
      match afterTime? cs with
      | some cs => isOffset cs
      | none => false
  | none => afterTime? cs = some []

def numeral? (cs : List Char) : Option Value :=
  let rest := (signed cs).2.dropWhile Char.isDigit
  if rest.head? = some '-' || rest.head? = some ':' then
    if isMoment cs then some .moment else none
  else if rest.any fun c => c = '.' || c = 'e' || c = 'E' then float? cs
  else if rest.isEmpty || rest.head? = some '_' then decimal? cs
  else none

def scalar? (cs : List Char) : Option Value :=
  let unsigned := (signed cs).2
  if cs = "true".toList then some (.bool true)
  else if cs = "false".toList then some (.bool false)
  else if unsigned = "inf".toList || unsigned = "nan".toList then some (.float true)
  else
    match cs with
    | '0' :: 'x' :: ds => based? 16 ds
    | '0' :: 'o' :: ds => based? 8 ds
    | '0' :: 'b' :: ds => based? 2 ds
    | _ => if unsigned.head?.any fun c => c.isDigit || c = '_' then numeral? cs else none

def isScalarChar (c : Char) : Bool :=
  !(c = '=' || c = ',' || c = '[' || c = ']' || c = '\x7b' || c = '\x7d' || c = ' ' || c = '\t' ||
    c = '#' || c = '\r' || c = '\n')

/-- The word at the start, and what follows it. A single space joins a date and a time. -/
def word (cs : List Char) : List Char × List Char :=
  let first := cs.takeWhile isScalarChar
  let rest := cs.dropWhile isScalarChar
  match rest with
  | ' ' :: c :: more =>
    if c.isDigit && afterDate? first = some [] then
      (first ++ ' ' :: (c :: more).takeWhile isScalarChar, (c :: more).dropWhile isScalarChar)
    else (first, rest)
  | _ => (first, rest)

end LintRepair.Toml
