import LintRepair.Text.Graphic
import LintRepair.Text.Trim

/-!
Texts in quotes and spans of time, as they are shown in messages.
-/
namespace LintRepair.Text

def hexDigits (digit : Nat → Char) (n : Nat) : List Char :=
  if n < 16 then [digit n] else hexDigits digit (n / 16) ++ [digit (n % 16)]

def lowerHex (n : Nat) : Char := if n < 10 then Char.ofNat (48 + n) else Char.ofNat (87 + n)

def upperHex (n : Nat) : Char := if n < 10 then Char.ofNat (48 + n) else Char.ofNat (55 + n)

/-- At least four digits: zeros are put before shorter numbers. -/
def padFour (digits : List Char) : List Char := List.replicate (4 - digits.length) '0' ++ digits

def shown (c : Char) : List Char :=
  if c = '"' then ['\\', '"']
  else if c = '\\' then ['\\', '\\']
  else if c = '\n' then ['\\', 'n']
  else if c = '\t' then ['\\', 't']
  else if c = '\r' then ['\\', 'r']
  else if c = '\x00' then ['\\', '0']
  else if isGraphic c then [c]
  else ['\\', 'u', '\x7b'] ++ hexDigits lowerHex c.toNat ++ ['\x7d']

end LintRepair.Text

namespace LintRepair
open Text

def quoted (s : String) : String := String.ofList ('"' :: s.toList.flatMap shown ++ ['"'])

def thousandths (n : Nat) : List Char :=
  dropEnd (· = '0') (((toString (1000 + n)).toList).drop 1)

/-- A span of milliseconds: in seconds from one second on, with no zeros at the fraction's end. -/
def spanText (milliseconds : Nat) : String :=
  if milliseconds = 0 then "0ns"
  else if milliseconds < 1000 then toString milliseconds ++ "ms"
  else if milliseconds % 1000 = 0 then toString (milliseconds / 1000) ++ "s"
  else toString (milliseconds / 1000) ++ "." ++ String.ofList (thousandths (milliseconds % 1000)) ++
    "s"

end LintRepair
