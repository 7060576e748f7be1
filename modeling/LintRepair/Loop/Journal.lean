import LintRepair.Diagnostic.Json
import LintRepair.Files.Replace
import LintRepair.Loop.Basic
import LintRepair.Project.Layout

/-!
A journal of a run: for each cycle a directory with what was linted, what was found, and what came
back. It is only written, never read by a loop.
-/
namespace LintRepair

structure EntryHead where
  runId : String
  iter : UInt32
  version : UInt32
  lintSuccess : Bool
  diagnostics : Nat
  repaired : Bool
  /-- In milliseconds. -/
  duration : UInt64
deriving DecidableEq, Repr

structure Entry where
  head : EntryHead
  lint : LintOutput
  diagnostics : List Diagnostic
  repair : Option Repair
deriving DecidableEq, Repr

inductive JournalError where
  | makeDirectory (dir : Path) (e : FileError)
  | write (p : Path) (e : FileError)
deriving DecidableEq, Repr

def JournalError.layers : JournalError → List Layer
  | .makeDirectory dir e => [.text ("create iteration dir " ++ dir.text), .text e.message]
  | .write p e => [.text ("write " ++ p.text), .text e.message]

def EntryHead.toJson (h : EntryHead) : Json.Value :=
  .ofMembers [("run_id", .ofString h.runId), ("iter", .ofNat h.iter.toNat),
    ("source_version", .ofNat h.version.toNat), ("lint_success", .bool h.lintSuccess),
    ("diagnostics", .ofNat h.diagnostics), ("repaired", .bool h.repaired),
    ("duration_ms", .ofNat h.duration.toNat)]

def LintOutput.log (l : LintOutput) : String :=
  "=== stdout ===\n" ++ l.stdout ++ "\n=== stderr ===\n" ++ l.stderr

namespace Entry

/-- The entry of a cycle that took so many milliseconds; more than a word holds count as its
largest. -/
def ofCycle (runId : String) (duration : Nat) (c : Cycle) : Entry :=
  { head :=
      { runId := runId
        iter := c.pass.iter
        version := c.pass.version
        lintSuccess := c.pass.lint.success
        diagnostics := c.pass.diagnostics.length
        repaired := c.repair.isSome
        duration := .ofNat (min duration (UInt64.size - 1)) }
    lint := c.pass.lint
    diagnostics := c.pass.diagnostics
    repair := c.repair }

def places (e : Entry) (iterations : Path) : CyclePlaces :=
  .of iterations e.head.runId e.head.iter

def files (e : Entry) (iterations : Path) : List (Path × String) :=
  let place := e.places iterations
  [(place.head, e.head.toJson.pretty ++ "\n"), (place.lintLog, e.lint.log),
    (place.diagnostics, Diagnostic.listJsonText e.diagnostics ++ "\n")] ++
    match e.repair with
    | none => []
    | some r => [(place.response, r.raw), (place.candidate, r.source)]

end Entry

namespace Tree

/-- Writing files one after the other, up to the first that can not be written. -/
def writeAll (t : Tree) (base : List String) : List (Path × String) →
    Except JournalError Unit × Tree
  | [] => (.ok (), t)
  | (p, s) :: more =>
    match t.writeText base p s with
    | .error e => (.error (.write p e), t)
    | .ok after => after.writeAll base more

/-- Writing a journal entry. What was written before a failure stays. -/
def writeEntry (t : Tree) (base : List String) (iterations : Path) (e : Entry) :
    Except JournalError Unit × Tree :=
  match t.makeDirectories base (e.places iterations).dir with
  | (.error f, t₁) => (.error (.makeDirectory (e.places iterations).dir f), t₁)
  | (.ok (), t₁) => t₁.writeAll base (e.files iterations)

/-- Keeping a cycle, if a journal is kept at all. A failure is passed over. -/
def keep (t : Tree) (base : List String) (iterations : Option Path) (runId : String)
    (duration : Nat) (c : Cycle) : Tree :=
  match iterations with
  | none => t
  | some dir => (t.writeEntry base dir (.ofCycle runId duration c)).2

end Tree
end LintRepair
