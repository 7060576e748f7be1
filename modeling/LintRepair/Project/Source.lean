import LintRepair.Files.Replace

/-!
The one source file of a project that is under repair.
-/
namespace LintRepair

structure SourceFile where
  root : Path
  relative : Path
deriving DecidableEq, Repr

inductive SourceError where
  | read (p : Path) (e : FileError)
  | replace (e : ReplaceError)
deriving DecidableEq, Repr

def SourceError.layers : SourceError → List Layer
  | .read p e => [.text ("read " ++ p.text), .text e.message]
  | .replace e => e.layers

namespace SourceFile

def path (f : SourceFile) : Path := f.root.join f.relative

def description (f : SourceFile) : String := f.relative.text

def read (f : SourceFile) (t : Tree) (base : List String) : Except SourceError String :=
  match t.readText base f.path with
  | .ok s => .ok s
  | .error e => .error (.read f.path e)

def write (f : SourceFile) (t : Tree) (base : List String) (s : String) (trouble : Trouble := {}) :
    Except SourceError Unit × Tree :=
  match t.replace base f.path s trouble with
  | (.ok (), after) => (.ok (), after)
  | (.error e, after) => (.error (.replace e), after)

end SourceFile
end LintRepair
