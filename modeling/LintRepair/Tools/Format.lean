import LintRepair.Tools.Real

/-!
Directives of a format: what stands behind a percent sign and says how a value is written.
-/
namespace LintRepair.Tools

structure Directive where
  flags : List Char := []
  width : Nat := 0
  precision : Option Nat := none
  kind : Char
deriving DecidableEq, Repr

namespace Directive

def has (d : Directive) (c : Char) : Bool := d.flags.contains c

/-- The directive with a width; a negative one asks for the left side. -/
def withWidth (d : Directive) (n : Int) : Directive :=
  if n < 0 then { d with flags := '-' :: d.flags, width := n.natAbs } else { d with width := n.toNat }

/-- The directive with a precision; a negative one counts as none. -/
def withPrecision (d : Directive) (n : Int) : Directive :=
  { d with precision := if n < 0 then none else some n.toNat }

def blanks (d : Directive) (cs : List Char) : List Char :=
  let missing := List.replicate (d.width - cs.length) ' '
  if d.has '-' then cs ++ missing else missing ++ cs

def filled (d : Directive) (zeros : Bool) (sign body : List Char) : List Char :=
  if zeros && !d.has '-' then
    sign ++ List.replicate (d.width - sign.length - body.length) '0' ++ body
  else d.blanks (sign ++ body)

def text (d : Directive) (cs : List Char) : List Char :=
  d.blanks (match d.precision with
    | some n => cs.take n
    | none => cs)

def sign (d : Directive) (isNegative : Bool) : List Char :=
  if isNegative then ['-'] else if d.has '+' then ['+'] else if d.has ' ' then [' '] else []

def cased (d : Directive) (cs : List Char) : List Char :=
  if d.kind.isUpper then cs.map Char.toUpper else cs

/-- A whole number; a directive without sign takes its lowest 64 bits. -/
def whole (d : Directive) (n : Int) : List Char :=
  let zeros := d.has '0' && d.precision.isNone
  let least := d.precision.getD 1
  let digits := fun (base m : Nat) => if m = 0 && least = 0 then [] else paddedDigits base least m
  match d.kind with
  | 'd' | 'i' => d.filled zeros (d.sign (n < 0)) (digits 10 n.natAbs)
  | 'o' =>
    let ds := digits 8 (unsigned n)
    d.filled zeros [] (if d.has '#' && ds.head? ≠ some '0' then '0' :: ds else ds)
  | 'x' | 'X' =>
    let mark := if d.has '#' && unsigned n ≠ 0 then ['0', d.kind] else []
    d.filled zeros mark (d.cased (digits 16 (unsigned n)))
  | _ => d.filled zeros [] (digits 10 (unsigned n))

def real (d : Directive) (f : BinaryFormat) (x : Real) : List Char :=
  let sign := d.sign x.isNegative
  match x.magnitude with
  | .infinite => d.blanks (sign ++ d.cased ['i', 'n', 'f'])
  | .notANumber => d.blanks (sign ++ d.cased ['n', 'a', 'n'])
  | .finite m e =>
    let p := d.precision.getD 6
    let body := match d.kind.toLower with
      | 'e' =>
        let (digits, x) := scientificDigits p m e
        scientificText (d.has '#') digits x
      | 'g' => general p (d.has '#') m e
      | 'a' => hexadecimal f d.precision (d.has '#') m e
      | _ => fixed p (d.has '#') m e
    match d.kind.toLower, body with
    | 'a', _ :: _ :: body => d.filled (d.has '0') (sign ++ ['0', if d.kind = 'A' then 'X' else 'x'])
        (d.cased body)
    | _, body => d.filled (d.has '0') sign (d.cased body)

end Directive
end LintRepair.Tools
