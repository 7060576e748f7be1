import LintRepair.Json.Value
import LintRepair.Text.Quoted

/-!
JSON values written over several lines: two blanks for each level, one item or member a line, and
nothing inside the brackets of an empty array or object.
-/
namespace LintRepair.Json
open Text

/-- A character inside a string literal: controls, quotes and backslashes are escaped. -/
def escaped (c : Char) : List Char :=
  if c = '"' then ['\\', '"']
  else if c = '\\' then ['\\', '\\']
  else if c = '\x08' then ['\\', 'b']
  else if c = '\x0c' then ['\\', 'f']
  else if c = '\n' then ['\\', 'n']
  else if c = '\r' then ['\\', 'r']
  else if c = '\t' then ['\\', 't']
  else if c < ' ' then '\\' :: 'u' :: padFour (hexDigits lowerHex c.toNat)
  else [c]

/-- A string literal. Half of a surrogate pair stands for a literal that has no text. -/
def literalOf : Literal → List Char
  | some s => '"' :: s.toList.flatMap escaped ++ ['"']
  | none => "\"\\ud800\"".toList

def lineAt (level : Nat) : List Char := '\n' :: List.replicate (2 * level) ' '

mutual

def Value.layout (level : Nat) : Value → List Char
  | .null => "null".toList
  | .bool true => "true".toList
  | .bool false => "false".toList
  | .number n => n.toList
  | .text s => literalOf s
  | .array [] => ['[', ']']
  | .array (v :: vs) =>
    '[' :: lineAt (level + 1) ++ v.layout (level + 1) ++ itemsLayout (level + 1) vs ++
      lineAt level ++ [']']
  | .object [] => ['\x7b', '\x7d']
  | .object ((k, v) :: ms) =>
    '\x7b' :: lineAt (level + 1) ++ literalOf k ++ [':', ' '] ++ v.layout (level + 1) ++
      membersLayout (level + 1) ms ++ lineAt level ++ ['\x7d']

def itemsLayout (level : Nat) : List Value → List Char
  | [] => []
  | v :: vs => ',' :: lineAt level ++ v.layout level ++ itemsLayout level vs

def membersLayout (level : Nat) : List (Literal × Value) → List Char
  | [] => []
  | (k, v) :: ms =>
    ',' :: lineAt level ++ literalOf k ++ [':', ' '] ++ v.layout level ++ membersLayout level ms

end

def Value.pretty (v : Value) : String := String.ofList (v.layout 0)

end LintRepair.Json
