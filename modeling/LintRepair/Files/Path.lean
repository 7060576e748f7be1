import LintRepair.Text.Split

/-!
Paths as texts. Joining never normalises: an absolute right side replaces the left one, and a
slash is put between only if the left side is neither empty nor ends in one. The parts of a path
are its segments between slashes; empty segments and single dots name nothing, except for a dot at
the very start.
-/
namespace LintRepair

structure Path where
  text : String
deriving DecidableEq, Repr, Inhabited

namespace Path
open Text

def isAbsolute (p : Path) : Bool := p.text.toList.head? = some '/'

def start (base : List String) (p : Path) : List String := if p.isAbsolute then [] else base

def join (p q : Path) : Path :=
  if q.isAbsolute then q
  else if p.text.toList.getLast?.any (· ≠ '/') then ⟨p.text ++ "/" ++ q.text⟩
  else ⟨p.text ++ q.text⟩

def child (p : Path) (name : String) : Path := p.join ⟨name⟩

def segments (p : Path) : List String := (split '/' p.text.toList).map String.ofList

/-- A segment that names nothing: it is empty or a single dot. -/
def isIdle (segment : String) : Bool := segment = "" || segment = "."

def ofSegments : List String → Path
  | [""] => ⟨"/"⟩
  | segments => ⟨"/".intercalate segments⟩

/-- The segments without idle ones at the end; the first stays. -/
def dropIdleEnd : List String → List String
  | [] => []
  | first :: others => first :: (others.reverse.dropWhile isIdle).reverse

/-- What the path names last: none for the root, a dot, a double dot or an empty path. -/
def fileName? (p : Path) : Option String :=
  match (dropIdleEnd p.segments).getLast? with
  | some name => if isIdle name || name = ".." then none else some name
  | none => none

/-- The path without what it names last; none for the root and the empty path. -/
def parent? (p : Path) : Option Path :=
  match dropIdleEnd p.segments with
  | [] => none
  | [first] => if first = "" then none else some ⟨""⟩
  | segments => some (ofSegments (dropIdleEnd segments.dropLast))

def names (p : Path) : List String := p.segments.filter (!isIdle ·)

/-- The path can only lead below where it starts: it is relative, not empty, and never goes up. -/
def isInside (p : Path) : Bool :=
  p.text ≠ "" && !p.isAbsolute && p.segments.all (· ≠ "..")

end Path
end LintRepair
