import LintRepair.Config.File
import LintRepair.Project.Layout

/-!
Setting up a project: a directory with a configuration in it, and a list of what is not to be kept
under version control. What was done before a failure stays.
-/
namespace LintRepair

inductive InitError where
  | notDirectory
  | alreadySetUp (config : Path)
  | makeDirectory (p : Path) (e : FileError)
  | config (e : ConfigError)
  | write (p : Path) (e : FileError)
deriving DecidableEq, Repr

def InitError.layers : InitError → List Layer
  | .notDirectory => [.text "fixloop init: .fixloop exists but is not a directory"]
  | .alreadySetUp p =>
    [.text ("fixloop init: " ++ p.text ++ " already exists (use --force to overwrite)")]
  | .makeDirectory p e => [.text ("create directory " ++ p.text), .text e.message]
  | .config e => e.layers
  | .write p e => [.text ("write " ++ p.text), .text e.message]

def ignoredFiles : String := "iterations/\n"

/-- Setting up the project at a root. Only by force a configuration that is there is replaced. -/
def initProject (t : Tree) (base : List String) (root : Path) (c : Config) (force : Bool) :
    Except InitError Layout × Tree :=
  let places := Layout.of root
  if t.exists? base places.stateDir && !t.isDirectory base places.stateDir then
    (.error .notDirectory, t)
  else if t.exists? base places.config && !force then (.error (.alreadySetUp places.config), t)
  else
    match t.makeDirectories base places.stateDir with
    | (.error e, t₁) => (.error (.makeDirectory places.stateDir e), t₁)
    | (.ok (), t₁) =>
      match c.write t₁ base places.config with
      | (.error e, t₂) => (.error (.config e), t₂)
      | (.ok (), t₂) =>
        match t₂.writeText base places.gitignore ignoredFiles with
        | .error e => (.error (.write places.gitignore e), t₂)
        | .ok t₃ => (.ok places, t₃)

end LintRepair
