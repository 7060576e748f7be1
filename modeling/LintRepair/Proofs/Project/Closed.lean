import LintRepair.Project.Init
import LintRepair.Project.Repair
import LintRepair.Proofs.Files.Closed
import LintRepair.Proofs.Loop.Invariant

/-!
Files stay in directories whatever a project goes through: its setup, its journal, and every call of
its loop, provided that its commands leave them there.
-/
namespace LintRepair

namespace Config

theorem write_closed {t : Tree} (closed : t.Closed) (base : List String) (p : Path) (c : Config) :
    (c.write t base p).2.Closed := by
  have replaced := closed.replace base p c.toText {}
  unfold write
  split
  · exact closed
  · split <;> rename_i done <;> rwa [done] at replaced

end Config

namespace Tree
variable {t : Tree} {base : List String}

theorem Closed.writeText {u : Tree} {p : Path} {s : String} (closed : t.Closed)
    (h : t.writeText base p s = .ok u) : u.Closed := closed.writeBytes h

theorem Closed.writeAll (closed : t.Closed) (base : List String) (files : List (Path × String)) :
    (t.writeAll base files).2.Closed := by
  induction files generalizing t with
  | nil => exact closed
  | cons f files ih =>
    unfold Tree.writeAll
    split
    · exact closed
    · rename_i written
      exact ih (closed.writeText written)

theorem Closed.writeEntry (closed : t.Closed) (base : List String) (iterations : Path)
    (e : Entry) : (t.writeEntry base iterations e).2.Closed := by
  have made := closed.makeDirectories base (e.places iterations).dir
  unfold Tree.writeEntry
  split <;> rename_i done <;> rw [done] at made
  · exact made
  · exact made.writeAll base _

theorem Closed.keep (closed : t.Closed) (base : List String) (iterations : Option Path)
    (runId : String) (duration : Nat) (c : Cycle) :
    (t.keep base iterations runId duration c).Closed := by
  cases iterations with
  | none => exact closed
  | some dir => exact closed.writeEntry base dir _

theorem Closed.initProject (closed : t.Closed) (base : List String) (root : Path) (c : Config)
    (force : Bool) : (LintRepair.initProject t base root c force).2.Closed := by
  have made := closed.makeDirectories base (Layout.of root).stateDir
  unfold LintRepair.initProject
  dsimp only
  split
  · exact closed
  split
  · exact closed
  split <;> rename_i done <;> rw [done] at made
  · exact made
  have written := Config.write_closed made base (Layout.of root).config c
  split <;> rename_i done <;> rw [done] at written
  · exact written
  · split
    · exact written
    · rename_i last
      exact written.writeText last

theorem Closed.write {f : SourceFile} (closed : t.Closed) (s : String) :
    (f.write t base s).2.Closed := by
  have replaced := closed.replace base f.path s {}
  unfold SourceFile.write
  split <;> rename_i done <;> rwa [done] at replaced

end Tree

/-- Programs that leave files in directories. -/
def Programs.KeepsClosed (programs : Programs) : Prop :=
  ∀ words base q {t : Tree}, t.Closed → (programs words base q t).2.Closed

section Programs
variable {programs : Programs} (keeps : programs.KeepsClosed)
include keeps

theorem runCommand_closed (base words : List String) (q : CommandRequest) {t : Tree}
    (closed : t.Closed) : (runCommand programs base words q t).2.Closed := by
  cases words with
  | nil => exact closed
  | cons word words =>
    have after := keeps (word :: words) base q closed
    unfold runCommand
    dsimp only
    split <;> rename_i done <;> rwa [done] at after

namespace Toolchain
variable (c : Toolchain)

theorem runToEnd_closed (base words : List String) (q : CommandRequest) {t : Tree}
    (closed : t.Closed) : (runToEnd programs base words q t).2.Closed := by
  have after := runCommand_closed keeps base words q closed
  unfold runToEnd
  split <;> rename_i done <;> rw [done] at after
  · exact after
  · split <;> exact after

theorem runLint_closed (base : List String) (q : CommandRequest) {t : Tree} (closed : t.Closed) :
    (c.runLint programs base q t).2.Closed := by
  have after := runToEnd_closed keeps base c.lint q closed
  unfold runLint
  split <;> rename_i done <;> rwa [done] at after

theorem runFormat_closed (base : List String) (q : CommandRequest) {t : Tree} (closed : t.Closed) :
    (c.runFormat programs base q t).2.Closed := by
  have after := runToEnd_closed keeps base c.format q closed
  unfold runFormat
  split <;> rename_i done <;> rw [done] at after
  · exact after
  · split <;> exact after

theorem runExplain_closed (base : List String) (code : String) (q : CommandRequest) {t : Tree}
    (closed : t.Closed) : (c.runExplain programs base code q t).2.Closed := by
  have after := runToEnd_closed keeps base (c.explain ++ [code]) q closed
  unfold runExplain
  split
  · exact closed
  · split <;> rename_i done <;> rwa [done] at after

end Toolchain
end Programs

/-- Whatever was started before, programs leave files in directories. -/
def Surroundings.KeepsClosed (u : Surroundings) : Prop :=
  ∀ environment started, (u.programs environment started).KeepsClosed

namespace Project
variable {u : Surroundings}

theorem preserves_closed (p : Project) (keeps : u.KeepsClosed) :
    (p.collaborators u).Preserves fun w => w.tree.Closed where
  read closed := closed
  write text {_} closed := closed.write text
  lint q {_} closed := p.toolchain.runLint_closed (keeps _ _) u.cwd q closed
  explain code q {w} closed := by
    unfold collaborators
    dsimp only
    split
    · exact closed
    · exact p.toolchain.runExplain_closed (keeps _ _) u.cwd code q closed
  format q {_} closed := p.toolchain.runFormat_closed (keeps _ _) u.cwd q closed
  repair _ {_} closed := closed
  report _ {_} closed := closed
  record _ {_} closed := closed.keep _ _ _ _ _

theorem repair_closed (p : Project) (keeps : u.KeepsClosed) {w : World} (closed : w.tree.Closed) :
    (p.repair u w).2.tree.Closed :=
  (p.preserves_closed keeps).run _ closed

end Project
end LintRepair
