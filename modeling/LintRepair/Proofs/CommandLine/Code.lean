import LintRepair.CommandLine.Run
import LintRepair.Proofs.Config.RoundTrip
import LintRepair.Proofs.Loop.Answer
import LintRepair.Proofs.Loop.Service

/-!
The code that a call for a repair ends with. It tells a faulty setup, at which nothing was begun,
from a loop that converged, one that spent its budget and one that a failure ended.
-/
namespace LintRepair

def Project.events (p : Project) (u : Surroundings) (w : World) : List (Event WorkError) :=
  (p.collaborators u).events (.ofConfig p.root p.config) w

namespace Surroundings

variable {u : Surroundings} {t : Tree} {bytes : List UInt8} {key cwd : List String}

theorem envFileIn?_eq_some_iff :
    envFileIn? t key = some bytes ↔ t.get? (key ++ [".env"]) = some (.file bytes) := by
  unfold envFileIn?
  split <;> simp_all

theorem upwards_concat (key : List String) (name : String) :
    upwards (key ++ [name]) = (key ++ [name]) :: upwards key := by
  rw [upwards, List.length_append, List.length_singleton, List.range_succ, List.reverse_append,
    upwards, List.map_append]
  refine congrArg₂ List.cons (List.take_of_length_le (by simp)) ?_
  refine List.map_congr_left fun n mem => List.take_append_of_le_length ?_
  have := List.mem_range.mp (List.mem_reverse.mp mem)
  omega

theorem envFile?_nil : envFile? t [] = envFileIn? t [] := by
  rw [envFile?, upwards]
  simp

theorem envFile?_concat (name : String) :
    envFile? t (cwd ++ [name]) = (envFileIn? t (cwd ++ [name])).or (envFile? t cwd) := by
  rw [envFile?, upwards_concat, List.findSome?_cons, ← envFile?]
  cases envFileIn? t (cwd ++ [name]) <;> rfl

/-- The variables are taken from the directory itself or from the nearest one above it that has a
file with them. -/
theorem envFile?_eq_some_iff : envFile? t cwd = some bytes ↔
    ∃ key, key <+: cwd ∧ t.get? (key ++ [".env"]) = some (.file bytes) ∧
      ∀ nearer, nearer <+: cwd → key.length < nearer.length → envFileIn? t nearer = none := by
  induction cwd using List.reverseRecOn with
  | nil =>
    rw [envFile?_nil, envFileIn?_eq_some_iff]
    constructor
    · exact fun found => ⟨[], List.prefix_rfl, found, by simp_all⟩
    · rintro ⟨key, inside, found, -⟩
      rwa [List.prefix_nil.mp inside] at found
  | append_singleton cwd name ih =>
    rw [envFile?_concat]
    rcases here : envFileIn? t (cwd ++ [name]) with _ | other
    · rw [Option.none_or]
      refine ih.trans ⟨?_, ?_⟩
      · rintro ⟨key, above, found, first⟩
        refine ⟨key, above.trans (List.prefix_append _ _), found, fun nearer inside far => ?_⟩
        rcases List.prefix_concat_iff.mp inside with rfl | inside
        · exact here
        · exact first nearer inside far
      · rintro ⟨key, above, found, first⟩
        rcases List.prefix_concat_iff.mp above with rfl | above
        · rw [← envFileIn?_eq_some_iff, here] at found
          cases found
        · exact ⟨key, above, found, fun nearer inside =>
            first nearer (inside.trans (List.prefix_append _ _))⟩
    · constructor
      · rintro found
        obtain rfl : other = bytes := Option.some.inj found
        refine ⟨_, List.prefix_rfl, envFileIn?_eq_some_iff.mp here, fun nearer inside far => ?_⟩
        exact absurd inside.length_le (Nat.not_le.mpr far)
      · rintro ⟨key, above, found, first⟩
        rcases List.prefix_concat_iff.mp above with rfl | above
        · rw [← envFileIn?_eq_some_iff, here] at found
          exact found
        · have short := above.length_le
          rw [first _ List.prefix_rfl (by simp; omega)] at here
          cases here

end Surroundings

namespace CommandLine

variable {u : Surroundings} {root : Path} {w after : World} {p : Project} {e : ConfigError}
variable {words : List String}

section Run
variable {f : Failure} {s : Success}

end Run

end CommandLine

namespace Lab

/-- The files before the project is configured. -/
def unconfigured : Tree :=
  ⟨[(["p", "main.rs"], .file (utf8 "f(x);")), (["p", ".fixloop"], .directory),
    (["p"], .directory), (["home", ".env"], .file (utf8 "OPENAI_API_KEY=key")),
    (["home", "lab"], .directory), (["home"], .directory)]⟩

variable (lints : List (Except SpawnError Execution)) (replies : List Web.Reply)

end Lab

namespace CommandLine

end CommandLine
end LintRepair
