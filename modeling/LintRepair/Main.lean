import LintRepair.CommandLine.Run
import LintRepair.Loop.RunId
import LintRepair.Shell.Start
import Std.Time.DateTime.Timestamp

/-!
The program itself. What the words of a call are about is taken in, the call is worked out on it,
and what has changed is put back. Commands are run by the shell of this library, and no service can
be reached.
-/
namespace LintRepair.Main

def place (key : List String) : String := "/" ++ "/".intercalate key

partial def entriesBelow (key : List String) : IO (List (List String × Node)) := do
  let mut found := []
  for entry in ← (← IO.FS.realPath (place key)).readDir do
    let inner := key ++ [entry.fileName]
    match (← entry.path.symlinkMetadata).type with
    | .dir => found := found ++ (inner, .directory) :: (← entriesBelow inner)
    | .file =>
      let bytes ← IO.FS.readBinFile (place inner)
      found := found ++ [(inner, .file bytes.toList)]
    | _ => pure ()
  return found

def keyOf? (p : String) : IO (Option (List String)) := do
  try return some ((← IO.FS.realPath p).components.filter (!·.isEmpty))
  catch _ => return none

def entriesAt (key : List String) : IO (List (List String × Node)) := do
  match (← (← IO.FS.realPath (place key)).metadata).type with
  | .dir => return (key, .directory) :: (← entriesBelow key)
  | .file => return [(key, .file (← IO.FS.readBinFile (place key)).toList)]
  | _ => return []

def entriesAbove (key : List String) : IO (List (List String × Node)) := do
  let mut found := []
  for above in (Surroundings.upwards key).tail do
    found := found ++ [(above, .directory)]
    let file := above ++ [".env"]
    if (← keyOf? (place file)) = some file then found := found ++ (← entriesAt file)
  return found

def pathsIn (words : List String) : List String :=
  match CommandLine.read words with
  | .ok (.run root) => [root.text]
  | .ok (.extract (some p)) => [p.text]
  | _ => []

/-- Puts an entry of a tree where it belongs, unless it is there already. -/
def putBack (before : Tree) (entry : List String × Node) : IO Unit := do
  if before.get? entry.1 = some entry.2 then return
  match entry.2 with
  | .directory => IO.FS.createDirAll (place entry.1)
  | .file bytes => IO.FS.writeBinFile (place entry.1) ⟨bytes.toArray⟩

def takeAway (after : Tree) (entry : List String × Node) : IO Unit :=
  match entry.2, after.get? entry.1 with
  | .directory, some .directory => pure ()
  | .file _, some (.file _) => pure ()
  | .directory, _ => IO.FS.removeDirAll (place entry.1)
  | .file _, _ => IO.FS.removeFile (place entry.1)

def mentioned (text : String) : List String :=
  let runs := fun (isPart : Char → Bool) =>
    (Text.split ' ' (text.toList.map fun c => if isPart c then c else ' ')).map String.ofList
  runs (fun c => c.isAlphanum || c = '_' || c = '.') ++ runs Text.isAlphanumeric

def environmentOf (names : List String) : IO Environment :=
  names.filterMapM fun name => do
    if name.isEmpty then return none
    return (← IO.getEnv name).map (name, ·)

partial def readAll (stream : IO.FS.Stream) (start : ByteArray) : IO ByteArray := do
  let more ← stream.read 65536
  if more.isEmpty then return start else readAll stream (start ++ more)

def inputFor (words : List String) : IO (List UInt8) := do
  match CommandLine.read words with
  | .ok (.extract none) => return (← readAll (← IO.getStdin) .empty).toList
  | _ => return []

def currentRunId : IO String := do
  return RunId.ofMilliseconds (← Std.Time.Timestamp.now).toMillisecondsSinceUnixEpoch.toInt.toNat

/-- Calls the program with some words on the files that are below the current directory or that the
words are about. -/
def call (words : List String) : IO UInt32 := do
  let cwd := (← keyOf? ".").getD []
  let mut places := [cwd]
  for p in pathsIn words do
    if let some key ← keyOf? p then
      if !cwd.isPrefixOf key then places := places ++ [key]
  let mut entries := Shell.systemTree.entries
  for key in places do
    entries := (← entriesAt key) ++ (← entriesAbove key) ++ entries
  let before : Tree := ⟨entries.filter (·.1 ≠ [])⟩
  let added := (Surroundings.envFile? before cwd).elim [] fun bytes => mentioned (lossyText bytes)
  let known := baseUrlVariable :: Backend.all.map Backend.keyVariable
  let u : Surroundings :=
    { cwd := cwd
      environment := ← environmentOf (known ++ added)
      input := ← inputFor words
      programs := fun environment _ => Shell.programs environment
      runId := ← currentRunId }
  let (outcome, after) := CommandLine.call u words { tree := before }
  let isOwn := fun (entry : List String × Node) => places.any (·.isPrefixOf entry.1)
  for entry in (before.entries.filter isOwn).mergeSort (·.1.length ≥ ·.1.length) do
    takeAway after.tree entry
  for entry in (after.tree.entries.filter isOwn).mergeSort (·.1.length ≤ ·.1.length) do
    putBack before entry
  IO.print after.output
  IO.eprint outcome.complaint
  return outcome.code

end LintRepair.Main

def main (words : List String) : IO UInt32 := LintRepair.Main.call words
