import LintRepair.Tools.Number

/-!
Patterns for texts and file names. A pattern is a text in which a backslash takes the meaning away
from the character behind it. It is matched by going through the text with all that can be left of
the pattern at each point, so the time it takes is bounded by the product of the two lengths.
-/
namespace LintRepair.Shell

def charClasses : List (String × (Char → Bool)) :=
  [("alnum", Char.isAlphanum), ("alpha", Char.isAlpha), ("blank", fun c => c = ' ' || c = '\t'),
    ("cntrl", fun c => c < ' ' || c = '\x7f'), ("digit", Char.isDigit),
    ("graph", fun c => ' ' < c && c < '\x7f'), ("lower", Char.isLower),
    ("print", fun c => ' ' ≤ c && c < '\x7f'),
    ("punct", fun c => ' ' < c && c < '\x7f' && !c.isAlphanum),
    ("space", Tools.isByteBlank), ("upper", Char.isUpper), ("xdigit", Tools.isDigitOf 16)]

inductive SetPart where
  | range (first last : Char)
  | ofClass (name : String)
deriving DecidableEq, Repr

/-- The order of characters in a range: those beyond the first half come before. -/
def rangeKey (c : Char) : Nat := (c.toNat + 128) % 256

def SetPart.contains (c : Char) : SetPart → Bool
  | .range a b => rangeKey a ≤ rangeKey c && rangeKey c ≤ rangeKey b
  | .ofClass name => ((charClasses.lookup name).map (· c)).getD false

inductive Glob where
  | one (c : Char)
  | any
  | many
  | set (isNegated : Bool) (parts : List SetPart)
deriving DecidableEq, Repr

def Glob.fits (g : Glob) (c : Char) : Bool :=
  match g with
  | .one d => c = d
  | .any => true
  | .many => false
  | .set isNegated parts => parts.any (·.contains c) != isNegated

/-- The name of a class at the start of a text behind its first bracket, and what follows it. -/
def className? (cs : List Char) : Option (String × List Char) :=
  charClasses.findSome? fun k =>
    let written := ':' :: k.1.toList ++ [':', ']']
    if written.isPrefixOf cs then some (k.1, cs.drop written.length) else none

/-- The parts of a set up to its closing bracket, and what follows it; none if it is not closed. The
first character is part of the set whatever it is. `fuel` bounds the characters. -/
def setParts : Nat → Bool → List SetPart → List Char → Option (List SetPart × List Char)
  | 0, _, _, _ => none
  | _, _, _, [] => none
  | fuel + 1, isFirst, parts, c :: cs =>
    if c = ']' && !isFirst then some (parts.reverse, cs)
    else
      match if c = '[' then className? cs else none with
      | some (name, rest) => setParts fuel false (.ofClass name :: parts) rest
      | none =>
        let (c, cs) := match c, cs with
          | '\\', d :: ds => (d, ds)
          | c, cs => (c, cs)
        match cs with
        | '-' :: d :: ds =>
          if d = ']' then setParts fuel false (.range c c :: parts) cs
          else
            match d, ds with
            | '\\', e :: es => setParts fuel false (.range c e :: parts) es
            | d, ds => setParts fuel false (.range c d :: parts) ds
        | cs => setParts fuel false (.range c c :: parts) cs

/-- The steps of a pattern. `fuel` bounds its characters. -/
def globs : Nat → List Char → List Glob
  | 0, _ => []
  | _, [] => []
  | fuel + 1, '\\' :: c :: cs => .one c :: globs fuel cs
  | fuel + 1, '?' :: cs => .any :: globs fuel cs
  | fuel + 1, '*' :: cs => .many :: globs fuel cs
  | fuel + 1, '[' :: cs =>
    let (isNegated, start) := match cs with
      | '!' :: more => (true, more)
      | cs => (false, cs)
    match setParts (start.length + 1) true [] start with
    | some (parts, rest) => .set isNegated parts :: globs fuel rest
    | none => .one '[' :: globs fuel cs
  | fuel + 1, c :: cs => .one c :: globs fuel cs

def patternOf (cs : List Char) : List Glob := globs (cs.length + 1) cs

def leftOver : List Glob → List (List Glob)
  | .many :: gs => (.many :: gs) :: leftOver gs
  | gs => [gs]

def after (c : Char) : List Glob → List (List Glob)
  | .many :: gs => leftOver (.many :: gs)
  | g :: gs => if g.fits c then leftOver gs else []
  | [] => []

/-- What can be left of any of some patterns after one character; all have the same end, so their
lengths tell them apart. -/
def afterAll (c : Char) (states : List (List Glob)) : List (List Glob) :=
  (states.flatMap (after c)).foldl (fun found gs =>
    if found.any (·.length = gs.length) then found else gs :: found) []

def isDone (states : List (List Glob)) : Bool := states.any (·.isEmpty)

def matches? (pattern : List Glob) (text : List Char) : Bool :=
  isDone (text.foldl (fun states c => afterAll c states) (leftOver pattern))

/-- The length of the shortest start of a text that fits, or of the longest. `best` is the longest
found so far and `n` how much was taken. -/
def startLength (longest : Bool) (states : List (List Glob)) (n : Nat) (best : Option Nat) :
    List Char → Option Nat
  | [] => if isDone states then some n else best
  | c :: cs =>
    if isDone states && !longest then some n
    else if states.isEmpty then best
    else startLength longest (afterAll c states) (n + 1) (if isDone states then some n else best) cs

def withoutStart (longest : Bool) (pattern : List Glob) (text : List Char) : List Char :=
  text.drop ((startLength longest (leftOver pattern) 0 none text).getD 0)

def withoutEnd (longest : Bool) (pattern : List Glob) (text : List Char) : List Char :=
  (withoutStart longest pattern.reverse text.reverse).reverse

end LintRepair.Shell
