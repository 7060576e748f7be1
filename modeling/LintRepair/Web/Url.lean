import LintRepair.Text.Quoted
import LintRepair.Text.Split
import LintRepair.Text.Utf8

/-!
What a request names behind its server: a path without dot segments and a query, both percent
encoded. A fragment is not sent.
-/
namespace LintRepair.Web
open Text

def isIgnored (c : Char) : Bool := c = '\t' || c = '\n' || c = '\r'

def percentByte (b : UInt8) : List Char :=
  ['%', upperHex (b.toNat / 16), upperHex (b.toNat % 16)]

def isHidden (c : Char) : Bool := c ≤ ' ' || c ≥ '\x7f' || c = '"' || c = '<' || c = '>'

def isHiddenInPath (c : Char) : Bool :=
  isHidden c || c = '`' || c = '#' || c = '?' || c = '\x7b' || c = '\x7d'

def isHiddenInQuery (c : Char) : Bool := isHidden c || c = '#' || c = '\''

def percentEncode (hidden : Char → Bool) (cs : List Char) : List Char :=
  cs.flatMap fun c => if hidden c then (Utf8.encode [c]).flatMap percentByte else [c]

def plainDots : List Char → List Char
  | '%' :: '2' :: 'e' :: cs => '.' :: plainDots cs
  | '%' :: '2' :: 'E' :: cs => '.' :: plainDots cs
  | c :: cs => c :: plainDots cs
  | [] => []

def isDrive : List Char → Bool
  | [c, d] => c.isAlpha && (d = ':' || d = '|')
  | _ => false

/-- The segments, in reverse, before a double dot, without the last one. A drive stays where it
is. -/
def parent (before : List (List Char)) : List (List Char) :=
  if before.head?.any isDrive then before else before.tail

/-- Segments without dots: a double dot takes the segment before it away, and a dot segment at the
end leaves an empty one. The segments before come in reverse. -/
def withoutDots (before : List (List Char)) : List (List Char) → List (List Char)
  | [] => before.reverse
  | s :: more =>
    if plainDots s = ['.', '.'] then
      withoutDots (if more.isEmpty then [] :: parent before else parent before) more
    else if plainDots s = ['.'] then
      withoutDots (if more.isEmpty then [] :: before else before) more
    else withoutDots (s :: before) more

/-- A path as it is sent. A backslash stands for a slash. -/
def sentPath (cs : List Char) : List Char :=
  let slashed := cs.map fun c => if c = '\\' then '/' else c
  let segments := match split '/' slashed with
    | [] :: more => more
    | segments => segments
  '/' :: join '/' ((withoutDots [] segments).map (percentEncode isHiddenInPath))

def sentQuery : List Char → List Char
  | [] => []
  | mark :: cs => mark :: percentEncode isHiddenInQuery cs

/-- What a request names, from what stands behind the server in its address; none if that can not
stand there. -/
def target? (behind : List Char) : Option String :=
  let cs := behind.filter (!isIgnored ·)
  let shown := cs.takeWhile (· ≠ '#')
  let path := shown.takeWhile (· ≠ '?')
  let query := shown.dropWhile (· ≠ '?')
  match path with
  | [] => some (String.ofList ('/' :: sentQuery query))
  | c :: _ =>
    if c = '/' || c = '\\' then some (String.ofList (sentPath path ++ sentQuery query)) else none

end LintRepair.Web
