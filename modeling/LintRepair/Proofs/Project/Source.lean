import LintRepair.Project.Source
import LintRepair.Proofs.Config.Usable
import LintRepair.Proofs.Files.Parent

/-!
The source of a project stays inside the project. A usable configuration names it by a relative path
that never goes up, so the source and the temporary file beside it lie below the project's root,
unless that path names nothing at all: a dot is accepted too, and then the root itself is meant.
-/
namespace LintRepair

namespace SourceFile
open LintRepair.Path

variable {f : SourceFile}

/-- The file and the one that is written in its place lie strictly below the root. -/
structure Confined (f : SourceFile) : Prop where
  path : f.root.Below f.path
  temporary : ∃ temporary, f.path.temporary? = some temporary ∧ f.root.Below temporary

/-- What a replacement leaves, whatever the disk refuses: nothing outside of the root is written. -/
def KeepsOutside (f : SourceFile) : Prop :=
  ∀ (t : Tree) (base : List String) (s : String) (trouble : Trouble) (q : List String),
    (∃ more, more ≠ [] ∧ q = f.root.key base ++ more) ∨
      (f.write t base s trouble).2.get? q = t.get? q ∨
      t.get? q = none ∧ (f.write t base s trouble).2.get? q = some .directory

theorem write_snd (f : SourceFile) (t : Tree) (base : List String) (s : String)
    (trouble : Trouble) :
    (f.write t base s trouble).2 = (t.replace base f.path s trouble).2 := by
  unfold write
  split <;> simp_all

theorem Confined.keepsOutside (confined : f.Confined) : f.KeepsOutside := by
  intro t base s trouble q
  by_cases at_file : q = f.path.key base
  · exact .inl (at_file ▸ confined.path.exists_key base)
  obtain ⟨temporary, has_temporary, below⟩ := confined.temporary
  by_cases at_temporary : q = temporary.key base
  · exact .inl (at_temporary ▸ below.exists_key base)
  have lasting : ∀ other, f.path.temporary? = some other → q ≠ other.key base := by
    intro other same
    rw [has_temporary] at same
    exact Option.some.inj same ▸ at_temporary
  rw [write_snd]
  rcases Tree.get?_replace rfl at_file lasting with same | ⟨-, made⟩
  · exact .inr (.inl same)
  · exact .inr (.inr made)

/-- A path that never goes up leads below the root if it names anything. -/
theorem confined_iff (inside : f.relative.isInside = true) :
    f.Confined ↔ f.relative.names ≠ [] := by
  rw [isInside, Bool.and_eq_true, Bool.and_eq_true] at inside
  obtain ⟨⟨-, relative⟩, forward⟩ := inside
  have relative : f.relative.isAbsolute = false := by simpa using relative
  have names : f.path.names = f.root.names ++ f.relative.names := names_join relative
  constructor
  · intro confined none
    obtain ⟨more, filled, -, whole⟩ := confined.path.names
    rw [names, none] at whole
    exact filled (List.append_cancel_left whole).symm
  · intro filled
    have below : f.root.Below f.path := by
      refine ⟨isAbsolute_join relative, f.relative.names, filled, fun up => ?_, names⟩
      have segment := List.mem_of_mem_filter up
      simpa using List.all_eq_true.mp forward _ segment
    exact ⟨below, below.temporary⟩

end SourceFile

namespace Config

/-- For a usable configuration and whatever root: the source is confined if and only if its path
names anything, and then replacing it writes nothing outside. -/
theorem source_confined_iff {c : Config} (usable : c.validate = .ok ()) (root : Path) :
    ((SourceFile.mk root c.source).Confined ↔ c.source.names ≠ []) ∧
      (c.source.names ≠ [] → (SourceFile.mk root c.source).KeepsOutside) := by
  have inside : c.source.isInside = true := (validate_eq_ok_iff.mp usable).source
  have confined : (SourceFile.mk root c.source).Confined ↔ c.source.names ≠ [] :=
    SourceFile.confined_iff inside
  exact ⟨confined, fun filled => (confined.mpr filled).keepsOutside⟩

/-- A configuration with its source at a path, the rest by default. -/
def sourced (source : Path) : Config :=
  { maxIterations := 1, lintTimeout := 1, agentTimeout := 1, source := source
    agent := ⟨.anthropic, "m", 1⟩ }

/-- Dots and slashes around the names make no difference. -/
theorem source_confined_dotted :
    (sourced ⟨"./src//main.rs/."⟩).validate = .ok () ∧
      (SourceFile.mk ⟨"a/../b/"⟩ ⟨"./src//main.rs/."⟩).Confined ∧
      (SourceFile.mk ⟨"a/../b/"⟩ ⟨"./src//main.rs/."⟩).path.temporary? =
        some ⟨"a/../b/./src/main.rs.tmp"⟩ := by
  have usable : (sourced ⟨"./src//main.rs/."⟩).validate = .ok () := by decide
  have named : (sourced ⟨"./src//main.rs/."⟩).source.names ≠ [] := by decide
  have confined := (source_confined_iff usable ⟨"a/../b/"⟩).1.mpr named
  exact ⟨usable, confined, by decide⟩

/-- A dot is a usable source, but it means the root itself. Then the temporary file stands beside
the project, and stays there when it cannot be renamed over a directory. -/
theorem source_strays :
    (sourced ⟨"."⟩).validate = .ok () ∧ ¬ (SourceFile.mk ⟨"proj"⟩ ⟨"."⟩).Confined ∧
      (SourceFile.mk ⟨"proj"⟩ ⟨"."⟩).path.temporary? = some ⟨"proj.tmp"⟩ ∧
      ∃ e after, (SourceFile.mk ⟨"proj"⟩ ⟨"."⟩).write ⟨[(["proj"], .directory)]⟩ [] "x" =
        (.error (.replace (.rename ⟨"proj/."⟩ e)), after) ∧
        after.get? ["proj.tmp"] = some (.file (utf8 "x")) := by
  refine ⟨by decide, fun confined => ?_, by decide, .isDirectory,
    ⟨[(["proj.tmp"], .file (utf8 "x")), (["proj"], .directory)]⟩, by decide, by decide⟩
  obtain ⟨more, filled, -, whole⟩ := confined.path.names
  have whole : ["proj"] ++ [] = ["proj"] ++ more := whole
  exact filled (List.append_cancel_left whole).symm

end Config
end LintRepair
