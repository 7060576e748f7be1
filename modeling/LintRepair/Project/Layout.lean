import LintRepair.Files.Path

/-!
Where a project keeps what belongs to its repairs, and where a journal keeps one cycle.
-/
namespace LintRepair

structure Layout where
  root : Path
  stateDir : Path
  config : Path
  iterations : Path
  gitignore : Path
deriving DecidableEq, Repr

def Layout.of (root : Path) : Layout :=
  let stateDir := root.child ".fixloop"
  ⟨root, stateDir, stateDir.child "config.toml", stateDir.child "iterations",
    stateDir.child ".gitignore"⟩

structure CyclePlaces where
  dir : Path
  head : Path
  lintLog : Path
  diagnostics : Path
  response : Path
  candidate : Path
deriving DecidableEq, Repr

def CyclePlaces.of (iterations : Path) (runId : String) (iter : UInt32) : CyclePlaces :=
  let dir := (iterations.child runId).child (toString iter.toNat)
  ⟨dir, dir.child "meta.json", dir.child "lint.log", dir.child "diagnostics.json",
    dir.child "response.md", dir.child "candidate.rs"⟩

end LintRepair
