import LintRepair.Tools.Basic
import LintRepair.Tools.Number

/-!
Escapes in texts that are printed: a backslash with a letter or with digits stands for a byte.
-/
namespace LintRepair.Tools

def escapeLetter? (c : Char) : Option Char :=
  [('a', '\x07'), ('b', '\x08'), ('e', '\x1b'), ('f', '\x0c'), ('n', '\n'), ('r', '\r'),
    ('t', '\t'), ('v', '\x0b'), ('\\', '\\')].lookup c

def byteChar (n : Nat) : Char := Char.ofNat (n % 256)

def digitByte (base most : Nat) (cs : List Char) : Char × List Char :=
  let digits := (cs.take most).takeWhile (isDigitOf base)
  (byteChar (digitsValue base digits), cs.drop digits.length)

inductive Escape where
  | char (c : Char) (rest : List Char)
  | stop
  | none
deriving DecidableEq, Repr

/-- A text with its escapes read, and whether printing stops at its end. `fuel` bounds its
characters. -/
def withEscapes (read : List Char → Escape) : Nat → List Char → List Char → List Char × Bool
  | 0, done, _ => (done.reverse, false)
  | _, done, [] => (done.reverse, false)
  | fuel + 1, done, '\\' :: cs =>
    match read cs with
    | .char c rest => withEscapes read fuel (c :: done) rest
    | .stop => (done.reverse, true)
    | .none => withEscapes read fuel ('\\' :: done) cs
  | fuel + 1, done, c :: cs => withEscapes read fuel (c :: done) cs

def readEscapes (read : List Char → Escape) (s : String) : List Char × Bool :=
  withEscapes read (s.length + 1) [] s.toList

end LintRepair.Tools
