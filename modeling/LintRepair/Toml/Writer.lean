import LintRepair.Text.Quoted
import LintRepair.Text.Utf8

/-!
Writing TOML: pairs, and sections with pairs of their own. A text is written in the plainest form
that can hold it.
-/
namespace LintRepair.Toml
open Text

inductive Item where
  | text (s : String)
  | number (n : Nat)
  | flag (b : Bool)
  | texts (ss : List String)
deriving DecidableEq, Repr

inductive Form where
  | basic
  | literal
  | basicBlock
  | literalBlock
deriving DecidableEq, Repr

def isControl (c : Char) : Bool := (c < ' ' && c ≠ '\t' && c ≠ '\n') || c = '\x7f'

def isHarmless (c : Char) : Bool :=
  c.isAlphanum || c = '_' || c = '-' || c = '.' || c = '/' || c = ' ' || c = ':'

/-- The longest run of a character, the run before the text being `current` and the longest one
before it `best`. -/
def longestRun (q : Char) (current best : Nat) : List Char → Nat
  | [] => max current best
  | c :: cs =>
    if c = q then longestRun q (current + 1) best cs else longestRun q 0 (max current best) cs

def formOf (cs : List Char) : Form :=
  let control := cs.any isControl
  let backslash := cs.contains '\\'
  let lineEnd := cs.contains '\n'
  let double := longestRun '"' 0 0 cs
  let single := longestRun '\'' 0 0 cs
  if cs.all isHarmless then .basic
  else if !control && !backslash && !lineEnd && double = 0 then .basic
  else if !control && !lineEnd && single = 0 then .literal
  else if !control && !backslash && double ≤ 2 then .basicBlock
  else if !control && single ≤ 2 then .literalBlock
  else if lineEnd then .basicBlock
  else .basic

def escaped (block : Bool) (c : Char) : List Char :=
  if c = '\x08' then ['\\', 'b']
  else if c = '\t' then ['\\', 't']
  else if c = '\n' then if block then ['\n'] else ['\\', 'n']
  else if c = '\x0c' then ['\\', 'f']
  else if c = '\r' then ['\\', 'r']
  else if c = '\\' then ['\\', '\\']
  else if c < ' ' || c = '\x7f' then '\\' :: 'u' :: padFour (hexDigits upperHex c.toNat)
  else [c]

/-- A text in double quotes. Up to `free` quotation marks in a row are left as they are, `run` of
them being just written. -/
def escapedFrom (block : Bool) (free run : Nat) : List Char → List Char
  | [] => []
  | c :: cs =>
    if c = '"' then
      if run < free then '"' :: escapedFrom block free (run + 1) cs
      else '\\' :: '"' :: escapedFrom block free 0 cs
    else escaped block c ++ escapedFrom block free 0 cs

def written (form : Form) (cs : List Char) : List Char :=
  let start := if cs.contains '\n' then ['\n'] else []
  match form with
  | .basic => '"' :: escapedFrom false 0 0 cs ++ ['"']
  | .literal => '\'' :: cs ++ ['\'']
  | .basicBlock => ['"', '"', '"'] ++ start ++ escapedFrom true 2 0 cs ++ ['"', '"', '"']
  | .literalBlock => ['\'', '\'', '\''] ++ start ++ cs ++ ['\'', '\'', '\'']

def quotation (s : String) : List Char := written (formOf s.toList) s.toList

/-- What stands behind a key. Two texts or more have a line each. -/
def Item.layout : Item → List Char
  | .text s => quotation s
  | .number n => (toString n).toList
  | .flag b => (toString b).toList
  | .texts [] => ['[', ']']
  | .texts [s] => '[' :: quotation s ++ [']']
  | .texts ss =>
    '[' :: '\n' :: ss.flatMap (fun s => "    ".toList ++ quotation s ++ [',', '\n']) ++ [']']

def pairLayout (p : String × Item) : List Char :=
  p.1.toList ++ [' ', '=', ' '] ++ p.2.layout ++ ['\n']

def sectionLayout (s : String × List (String × Item)) : List Char :=
  ['\n', '['] ++ s.1.toList ++ [']', '\n'] ++ s.2.flatMap pairLayout

def layout (pairs : List (String × Item)) (sections : List (String × List (String × Item))) :
    List Char :=
  pairs.flatMap pairLayout ++ sections.flatMap sectionLayout

end LintRepair.Toml
