import LintRepair.Shell.Pattern
import LintRepair.System.Process

/-!
What a word comes to when it is filled in: pieces of text that may be cut, the fields that they are
cut into, and the names of files that a field stands for if it is a pattern.
-/
namespace LintRepair.Shell
open LintRepair.System

inductive Cut where
  | whole
  | fields
  | words
deriving DecidableEq, Repr

inductive Chunk where
  | mark
  | text (cs : List Char) (quoted : Bool) (cut : Cut)
deriving DecidableEq, Repr

inductive Glyph where
  | mark
  | char (c : Char) (quoted : Bool)
deriving DecidableEq, Repr

def Glyph.text : Glyph → List Char
  | .mark => []
  | .char c _ => [c]

abbrev Field := List Glyph

def chunksText (chunks : List Chunk) : List Char := chunks.flatMap fun
  | .mark => []
  | .text cs _ _ => cs

/-- The character that stands between the words of the shell where nothing else does. -/
def wordBreak : Char := '\x00'

structure Cutting where
  /-- The fields that are done, the last first. -/
  done : List Field := []
  current : Field := []
  isGap : Bool := false
  wasWords : Bool := false

def addText (cs : List Char) (quoted : Bool) (f : Field) : Field :=
  cs.foldl (fun f c => .char c quoted :: f) f

def Cutting.fieldChar (separators : List Char) (c : Char) (quoted : Bool) (k : Cutting) :
    Cutting :=
  let isSeparator := c = wordBreak || separators.contains c
  let isBlank := isSeparator && (c = wordBreak || c = ' ' || c = '\t' || c = '\n')
  if k.isGap && isSeparator then { k with isGap := isBlank, current := [] }
  else if isSeparator then
    let isGap := isBlank && !k.wasWords
    if k.current.isEmpty && isGap then { k with isGap := false }
    else { k with done := k.current :: k.done, current := [], isGap := isGap }
  else { k with isGap := false, current := .char c quoted :: k.current }

def Cutting.wordChar (c : Char) (quoted : Bool) (k : Cutting) : Cutting :=
  if c = wordBreak then { k with done := k.current :: k.done, current := [] }
  else { k with current := .char c quoted :: k.current }

def Cutting.add (separators : List Char) (k : Cutting) : Chunk → Cutting
  | .mark => { k with current := .mark :: k.current }
  | .text cs quoted .whole => { k with current := addText cs quoted k.current }
  | .text cs quoted .fields =>
    let k := cs.foldl (fun k c => k.fieldChar separators c quoted) { k with isGap := false }
    { k with wasWords := false }
  | .text cs quoted .words =>
    let k := cs.foldl (fun k c => k.wordChar c quoted) { k with isGap := false }
    { k with wasWords := true }

def fieldsOf (separators : List Char) (chunks : List Chunk) : List Field :=
  let k := chunks.foldl (Cutting.add separators) {}
  (if k.current.isEmpty && !k.wasWords then k.done else k.current :: k.done).reverse

def fieldText (f : Field) : List Char := f.reverse.flatMap Glyph.text

/-- The pattern that glyphs write: a backslash before a quoted character takes its meaning away,
unless one stands there already. -/
def patternText (isFree : Bool) : List Glyph → List Char
  | [] => []
  | .mark :: gs => patternText true gs
  | .char c true :: gs =>
    if isFree then '\\' :: c :: patternText true gs else c :: patternText true gs
  | .char c false :: gs => c :: patternText (c ≠ '\\') gs

def patternOfChunks (chunks : List Chunk) : List Glob :=
  patternOf (patternText true (chunks.flatMap fun
    | .mark => [.mark]
    | .text cs quoted _ => cs.map (.char · quoted)))

/-- Up to which slash the start of a pattern is plain, and the slash that ends the first part of it
that is not, if there is one: the plain start, the part, and what follows the slash. -/
structure Glimpse where
  start : List Char
  part : List Char
  rest : Option (List Char)

/-- A set with something in it starts behind a bracket, on this side of a slash. -/
def closesSet : Nat → List Char → Bool
  | 0, _ => false
  | fuel + 1, cs =>
    let cs := match cs with
      | '\\' :: more => more
      | cs => cs
    match cs with
    | [] | '/' :: _ => false
    | _ :: ']' :: _ => true
    | _ :: more => closesSet fuel more

/-- The start of a pattern up to the slash behind its first part that is no plain name; none if all
of it is plain. Characters come in reverse. `fuel` bounds them. -/
def glimpse? : Nat → Bool → List Char → List Char → List Char → Option Glimpse
  | 0, _, _, _, _ => none
  | fuel + 1, isPattern, start, part, cs =>
    match cs with
    | [] => if isPattern then some ⟨start.reverse, part.reverse, none⟩ else none
    | c :: more =>
      if c = '*' || c = '?' then glimpse? fuel true start (c :: part) more
      else if c = '[' then
        let inside := match more with
          | '!' :: inside => inside
          | inside => inside
        glimpse? fuel (isPattern || closesSet (inside.length + 1) inside) start (c :: part) more
      else
        let (taken, d, more) := match c, more with
          | '\\', d :: more => ([d, '\\'], d, more)
          | c, more => ([c], c, more)
        if d ≠ '/' then glimpse? fuel isPattern start (taken ++ part) more
        else if isPattern then some ⟨start.reverse, part.reverse, some more⟩
        else glimpse? fuel false (taken ++ part ++ start) [] more

def unescaped : List Char → List Char
  | '\\' :: c :: cs => c :: unescaped cs
  | c :: cs => c :: unescaped cs
  | [] => []

/-- The paths that a pattern stands for below a path. `fuel` bounds the slashes. -/
def pathsFitting : Nat → List Char → List Char → Program (List (List Char))
  | 0, _, _ => return []
  | fuel + 1, before, pattern => do
    match glimpse? (pattern.length + 1) false [] [] pattern with
    | none =>
      if before.isEmpty then return []
      else
        let path := before ++ unescaped pattern
        match ← Program.look (String.ofList path) with
        | .ok _ => return [path]
        | .error _ => return []
    | some g =>
      let before := before ++ unescaped g.start
      let directory := if before.isEmpty then "." else String.ofList before
      match ← Program.names directory with
      | .error _ => return []
      | .ok names =>
        let seesDots := match g.part with
          | '.' :: _ | '\\' :: '.' :: _ => true
          | _ => false
        let globs := patternOf g.part
        let names := if seesDots then "." :: ".." :: names else names
        let names := names.filter fun n =>
          (seesDots || !n.startsWith ".") && matches? globs n.toList
        match g.rest with
        | none => return names.map fun n => before ++ n.toList
        | some rest => do
          let found ← names.mapM fun n => pathsFitting fuel (before ++ n.toList ++ ['/']) rest
          return found.flatten

def isWild : Glyph → Bool
  | .char c _ => c = '*' || c = '?' || c = '['
  | .mark => false

/-- The texts that a field stands for: the paths that fit it, or the field itself if there are
none. -/
def fieldTexts (expands : Bool) (f : Field) : Program (List String) := do
  let plain := [String.ofList (fieldText f)]
  if expands && f.any isWild then
    let pattern := patternText true f.reverse
    let paths ← pathsFitting (pattern.length + 1) [] pattern
    if paths.isEmpty then return plain
    else return (paths.map String.ofList).mergeSort (· ≤ ·)
  else return plain

end LintRepair.Shell
