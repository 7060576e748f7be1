import LintRepair.Project.Init
import LintRepair.Proofs.Config.RoundTrip
import LintRepair.Proofs.Files.Atomic

/-!
What setting up a project leaves in a tree. Nothing is undone when a step fails, so the error tells
how far the setup came. A setup that succeeds leaves a configuration that is loaded as it was given.
-/
namespace LintRepair

namespace Path

variable {p : Path} {key segments : List String} {name : String}

end Path

namespace Layout
open LintRepair.Path

variable {root other : Path} {base q : List String} {t u v : Tree}

/-- The file that a configuration is written to first. -/
def temporary (l : Layout) : Path := l.stateDir.child "config.toml.tmp"

/-- The key is left alone, or it leads to a directory that was missing on the way to the
configuration. -/
def Kept (base : List String) (root : Path) (t u : Tree) (q : List String) : Prop :=
  u.get? q = t.get? q ∨ q ∈ (Layout.of root).stateDir.way base ∧
    t.get? q = none ∧ u.get? q = some .directory

theorem Kept.trans (h : Kept base root t u q) (more : Kept base root u v q) :
    Kept base root t v q := by
  rcases h with same | ⟨mem, absent, directory⟩
  · rcases more with again | ⟨mem, absent, directory⟩
    · exact .inl (again.trans same)
    · exact .inr ⟨mem, same ▸ absent, directory⟩
  · rcases more with again | ⟨-, gone, -⟩
    · exact .inr ⟨mem, absent, again.trans directory⟩
    · rw [directory] at gone
      cases gone

end Layout

/-- Nothing that is checked first speaks against a setup. -/
structure Admits (t : Tree) (base : List String) (root : Path) (force : Bool) : Prop where
  state : t.exists? base (Layout.of root).stateDir = true →
    t.isDirectory base (Layout.of root).stateDir = true
  free : t.exists? base (Layout.of root).config = true → force = true

/-- How a setup of a project goes. -/
inductive Setup (t : Tree) (base : List String) (root : Path) (c : Config) (force : Bool) :
    Except InitError Layout → Tree → Prop where
  | notDirectory (refused : ¬ Admits t base root force) :
      Setup t base root c force (.error .notDirectory) t
  | alreadySetUp (refused : ¬ Admits t base root force) :
      Setup t base root c force (.error (.alreadySetUp (Layout.of root).config)) t
  | unmade {e : FileError} {u : Tree} (admitted : Admits t base root force)
      (made : t.makeDirectories base (Layout.of root).stateDir = (.error e, u)) :
      Setup t base root c force (.error (.makeDirectory (Layout.of root).stateDir e)) u
  | unconfigured {e : ConfigError} {t₁ u : Tree} (admitted : Admits t base root force)
      (made : t.makeDirectories base (Layout.of root).stateDir = (.ok (), t₁))
      (failed : c.write t₁ base (Layout.of root).config = (.error e, u)) :
      Setup t base root c force (.error (.config e)) u
  | unlisted {e : FileError} {t₁ u : Tree} (admitted : Admits t base root force)
      (made : t.makeDirectories base (Layout.of root).stateDir = (.ok (), t₁))
      (written : c.write t₁ base (Layout.of root).config = (.ok (), u)) :
      Setup t base root c force (.error (.write (Layout.of root).gitignore e)) u
  | done {t₁ t₂ u : Tree} (admitted : Admits t base root force)
      (made : t.makeDirectories base (Layout.of root).stateDir = (.ok (), t₁))
      (written : c.write t₁ base (Layout.of root).config = (.ok (), t₂))
      (listed : t₂.writeText base (Layout.of root).gitignore ignoredFiles = .ok u) :
      Setup t base root c force (.ok (Layout.of root)) u

section
open Layout

variable {t t₁ u : Tree} {base q : List String} {root : Path} {c : Config} {force : Bool}
variable {answer : Except InitError Layout}

theorem Setup.refused (h : Setup t base root c force answer u)
    (refused : ¬ Admits t base root force) : (∃ e, answer = .error e) ∧ u = t := by
  cases h with
  | notDirectory => exact ⟨⟨_, rfl⟩, rfl⟩
  | alreadySetUp => exact ⟨⟨_, rfl⟩, rfl⟩
  | unmade admitted => exact absurd admitted refused
  | unconfigured admitted => exact absurd admitted refused
  | unlisted admitted => exact absurd admitted refused
  | done admitted => exact absurd admitted refused

end

end LintRepair
