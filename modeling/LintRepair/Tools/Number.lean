/-!
Whole numbers as programs read them from words: blanks before, a sign, and a prefix that names the
base. Numbers have 64 bits; one that does not fit is brought to the nearest that does.
-/
namespace LintRepair.Tools

def isByteBlank (c : Char) : Bool := c = ' ' || ('\t' ≤ c && c ≤ '\r')

def digitValue? (c : Char) : Option Nat :=
  if '0' ≤ c && c ≤ '9' then some (c.toNat - 48)
  else if 'a' ≤ c && c ≤ 'z' then some (c.toNat - 87)
  else if 'A' ≤ c && c ≤ 'Z' then some (c.toNat - 55)
  else none

def isDigitOf (base : Nat) (c : Char) : Bool := (digitValue? c).any (· < base)

def digitsValue (base : Nat) (cs : List Char) : Nat :=
  cs.foldl (fun n c => n * base + (digitValue? c).getD 0) 0

structure Scanned where
  value : Int
  rest : List Char
  isThere : Bool
deriving DecidableEq, Repr

def basePrefix (cs : List Char) : Nat × List Char :=
  match cs with
  | '0' :: x :: d :: more =>
    if (x = 'x' || x = 'X') && isDigitOf 16 d then (16, d :: more)
    else if (x = 'b' || x = 'B') && isDigitOf 2 d then (2, d :: more)
    else (8, cs)
  | '0' :: _ => (8, cs)
  | _ => (10, cs)

def signOf : List Char → Bool × List Char
  | '-' :: more => (true, more)
  | '+' :: more => (false, more)
  | start => (false, start)

/-- The number at the start of a text; in base ten only if so said. -/
def scanNumber (isDecimal : Bool) (cs : List Char) : Scanned :=
  let (isNegative, start) := signOf (cs.dropWhile isByteBlank)
  let (base, start) := if isDecimal then (10, start) else basePrefix start
  let digits := start.takeWhile (isDigitOf base)
  if digits.isEmpty then ⟨0, cs, false⟩
  else
    let n : Int := digitsValue base digits
    ⟨if isNegative then -n else n, start.drop digits.length, true⟩

def largest : Int := 9223372036854775807

def least : Int := -9223372036854775808

def wordCount : Int := 18446744073709551616

def fits (n : Int) : Bool := least ≤ n && n ≤ largest

def clamped (n : Int) : Int := if n > largest then largest else if n < least then least else n

def wrapped (n : Int) : Int :=
  let r := n.emod wordCount
  if r > largest then r - wordCount else r

def unsigned (n : Int) : Nat := (n.emod wordCount).toNat

end LintRepair.Tools
