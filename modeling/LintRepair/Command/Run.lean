import LintRepair.Command.Basic
import LintRepair.Command.Capture
import LintRepair.Error
import LintRepair.Files.Tree

/-!
Running commands. What programs there are and what they do is a parameter; a run adds the checks
before it and the bounded capture of the output.
-/
namespace LintRepair

inductive SpawnError where
  | file (e : FileError)
  | badWord
deriving DecidableEq, Repr

def SpawnError.message : SpawnError → String
  | .file e => e.message
  | .badWord => "nul byte found in provided data"

inductive CommandEnding where
  | exited (code : Nat)
  | killed
  | timedOut
deriving DecidableEq, Repr

/-- What a command did: its output as it arrived, and how it ended. -/
structure Execution where
  stdout : List (List UInt8) := []
  stderr : List (List UInt8) := []
  ending : CommandEnding := .exited 0
deriving DecidableEq, Repr

/-- What the programs of a system do: from the words of a command, the directory from which its
working directory is looked up, the request and the files to an execution and the files after it. -/
abbrev Programs :=
  List String → List String → CommandRequest → Tree → Except SpawnError Execution × Tree

structure CommandOutput where
  stdout : Capture
  stderr : Capture
  ending : CommandEnding
deriving DecidableEq, Repr

namespace CommandOutput

/-- The code that the command ended with, unless a signal ended it. -/
def code? (o : CommandOutput) : Option Nat :=
  match o.ending with
  | .exited n => some n
  | _ => none

def success (o : CommandOutput) : Bool := o.code? = some 0

end CommandOutput

inductive CommandError where
  | empty
  | spawn (words : List String) (e : SpawnError)
deriving DecidableEq, Repr

def commandText (words : List String) : String := " ".intercalate words

def CommandError.layers : CommandError → List Layer
  | .empty => [.text "empty command"]
  | .spawn words e => [.text ("spawn " ++ commandText words), .text e.message]

def Execution.capture (limit : Nat) (e : Execution) : CommandOutput :=
  ⟨.ofChunks limit e.stdout, .ofChunks limit e.stderr, e.ending⟩

def runCommand (programs : Programs) (base words : List String) (q : CommandRequest) (t : Tree) :
    Except CommandError CommandOutput × Tree :=
  match words with
  | [] => (.error .empty, t)
  | _ :: _ =>
    match programs words base q t with
    | (.error e, t₁) => (.error (.spawn words e), t₁)
    | (.ok execution, t₁) => (.ok (execution.capture q.outputLimit), t₁)

end LintRepair
