import LintRepair.Command.Run
import LintRepair.EnvFile
import LintRepair.Loop.Basic
import LintRepair.Web.Exchange

/-!
What a call of the program finds and what it can change. Commands may do what they like, depending
on the environment and on the commands started before them.
-/
namespace LintRepair

structure Surroundings where
  cwd : List String := []
  environment : Environment := []
  input : List UInt8 := []
  /-- What programs do in an environment, after the commands that were started before; the last of
  these comes first. -/
  programs : Environment → List (List String) → Programs
  runId : String
  /-- How long a cycle takes, in milliseconds. -/
  duration : Cycle → Nat := fun _ => 0

structure World where
  tree : Tree := {}
  network : Web.Network := {}
  /-- The commands that were started, or tried, the last one first. -/
  started : List (List String) := []
  printed : List String := []

namespace World

def print (w : World) (s : String) : World := { w with printed := s :: w.printed }

def output (w : World) : String := String.join w.printed.reverse

def start {α : Type} (u : Surroundings) (words : List String) (w : World)
    (act : Programs → Tree → α × Tree) : α × World :=
  match act (u.programs u.environment w.started) w.tree with
  | (a, after) => (a, { w with tree := after, started := words :: w.started })

end World

namespace Surroundings

def upwards (key : List String) : List (List String) :=
  (List.range (key.length + 1)).reverse.map key.take

def envFileIn? (t : Tree) (key : List String) : Option (List UInt8) :=
  match t.get? (key ++ [".env"]) with
  | some (.file bytes) => some bytes
  | _ => none

/-- The file with further variables that is nearest to a directory: in it or above it. -/
def envFile? (t : Tree) (cwd : List String) : Option (List UInt8) :=
  (upwards cwd).findSome? (envFileIn? t)

def withEnvFile (u : Surroundings) (t : Tree) : Surroundings :=
  match envFile? t u.cwd with
  | some bytes => { u with environment := EnvFile.load u.environment bytes }
  | none => u

def setting? (u : Surroundings) (name : String) : Option String := u.environment.lookup name

end Surroundings
end LintRepair
