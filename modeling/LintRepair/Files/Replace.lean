import LintRepair.Error
import LintRepair.Files.Tree

/-!
Replacing a file as a whole: the new text goes into a temporary file beside it, which is then
renamed over it. So the file itself holds either its former content or all of the new one, whatever
step fails. Any step may be refused by the disk on top of what the shape of the tree forbids.
-/
namespace LintRepair

inductive ReplaceError where
  | noParent (p : Path)
  | makeDirectory (parent : Path) (e : FileError)
  | noFileName (p : Path)
  | writeTemporary (temporary : Path) (e : FileError)
  | rename (p : Path) (e : FileError)
deriving DecidableEq, Repr

def ReplaceError.layers : ReplaceError → List Layer
  | .noParent p => [.text ("path missing parent " ++ p.text)]
  | .makeDirectory p e => [.text ("create directory " ++ p.text), .text e.message]
  | .noFileName p => [.text ("path missing file name " ++ p.text)]
  | .writeTemporary p e => [.text ("write temp file " ++ p.text), .text e.message]
  | .rename p e => [.text ("replace " ++ p.text), .text e.message]

/-- A step that the disk refuses, and how much of it is done before: segments of the directory's
path or bytes of the text. Without a number the step does not begin. -/
structure DiskRefusal where
  error : FileError
  done : Option Nat := none
deriving DecidableEq, Repr

structure Trouble where
  directories : Option DiskRefusal := none
  temporary : Option DiskRefusal := none
  rename : Option FileError := none
deriving DecidableEq, Repr

namespace Tree

def tryDirectories (t : Tree) (base : List String) (p : Path) :
    Option DiskRefusal → Except FileError Unit × Tree
  | none => t.makeDirectories base p
  | some ⟨e, none⟩ => (.error e, t)
  | some ⟨e, some n⟩ => (.error e, (t.makeBelow (p.start base) (p.segments.take n)).2)

def tryWrite (t : Tree) (base : List String) (p : Path) (bytes : List UInt8) :
    Option DiskRefusal → Except FileError Unit × Tree
  | none =>
    match t.writeBytes base p bytes with
    | .ok after => (.ok (), after)
    | .error e => (.error e, t)
  | some ⟨e, none⟩ => (.error e, t)
  | some ⟨e, some n⟩ =>
    match t.writeBytes base p (bytes.take n) with
    | .ok after => (.error e, after)
    | .error first => (.error first, t)

def tryRename (t : Tree) (base : List String) (old new : Path) :
    Option FileError → Except FileError Unit × Tree
  | none =>
    match t.rename base old new with
    | .ok after => (.ok (), after)
    | .error e => (.error e, t)
  | some e => (.error e, t)

/-- The path of the temporary file: beside the file, with `.tmp` behind its name. -/
def temporaryIn (parent : Path) (name : String) : Path := parent.child (name ++ ".tmp")

/-- The tree with a file's content replaced, its missing directories made before. -/
def replace (t : Tree) (base : List String) (p : Path) (s : String) (trouble : Trouble := {}) :
    Except ReplaceError Unit × Tree :=
  match p.parent? with
  | none => (.error (.noParent p), t)
  | some parent =>
    match t.tryDirectories base parent trouble.directories with
    | (.error e, t₁) => (.error (.makeDirectory parent e), t₁)
    | (.ok (), t₁) =>
      match p.fileName? with
      | none => (.error (.noFileName p), t₁)
      | some name =>
        match t₁.tryWrite base (temporaryIn parent name) (utf8 s) trouble.temporary with
        | (.error e, t₂) => (.error (.writeTemporary (temporaryIn parent name) e), t₂)
        | (.ok (), t₂) =>
          match t₂.tryRename base (temporaryIn parent name) p trouble.rename with
          | (.error e, t₃) => (.error (.rename p e), t₃)
          | (.ok (), t₃) => (.ok (), t₃)

end Tree
end LintRepair
