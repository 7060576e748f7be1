import LintRepair.Config.Toml
import LintRepair.Files.Replace

/-!
Configurations in files.
-/
namespace LintRepair

inductive ConfigError where
  | setup (e : SetupError)
  | read (p : Path) (e : FileError)
  | replace (e : ReplaceError)
deriving DecidableEq, Repr

def ConfigError.layers : ConfigError → List Layer
  | .setup e => e.layers
  | .read p e => [.text ("read " ++ p.text), .text e.message]
  | .replace e => e.layers

namespace Config

def load (t : Tree) (base : List String) (p : Path) : Except ConfigError Config :=
  if t.exists? base p then
    match t.readText base p with
    | .error e => .error (.read p e)
    | .ok text =>
      match ofText text with
      | .error m => .error (.setup (.unreadable p m))
      | .ok c =>
        match c.validate with
        | .error e => .error (.setup e)
        | .ok () => .ok c
  else .error (.setup (.missingConfig p))

def write (t : Tree) (base : List String) (p : Path) (c : Config) :
    Except ConfigError Unit × Tree :=
  match c.validate with
  | .error e => (.error (.setup e), t)
  | .ok () =>
    match t.replace base p c.toText with
    | (.ok (), after) => (.ok (), after)
    | (.error e, after) => (.error (.replace e), after)

end Config
end LintRepair
