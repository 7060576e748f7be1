import LintRepair.Proofs.Diagnostic.RoundTrip

/-!
Reading a report, writing what was found and reading that again. The second reading takes one more
carriage return off the lines inside a context, so it gives the same diagnostics exactly when none
of these lines ends in one. Only where two carriage returns stand right before a line feed can a
report have such lines.
-/
namespace LintRepair.Text

variable {ls : List (List Char)} {l cs : List Char}

/-- A line end with a carriage return too many. -/
def doubledReturn : List Char := ['\r', '\r', '\n']

theorem doubledReturn_of_dropCarriageReturn (last : (dropCarriageReturn l).getLast? = some '\r')
    (rest : List Char) : doubledReturn <:+: l ++ '\n' :: rest := by
  by_cases cut : l.getLast? = some '\r'
  · obtain ⟨front, rfl⟩ := List.getLast?_eq_some_iff.mp cut
    have kept : dropCarriageReturn (front ++ ['\r']) = front := by simp [dropCarriageReturn]
    rw [kept] at last
    obtain ⟨front, rfl⟩ := List.getLast?_eq_some_iff.mp last
    exact ⟨front, rest, by simp [doubledReturn]⟩
  · rw [dropCarriageReturn_of_ne cut] at last
    exact absurd last cut

theorem linesOfPieces_pairwise (single : ¬ doubledReturn <:+: joinLines ls) :
    (linesOfPieces ls).Pairwise fun l _ => l.getLast? ≠ some '\r' := by
  induction ls with
  | nil => exact .nil
  | cons l ls ih =>
    cases ls with
    | nil => by_cases none : l.isEmpty = true <;> simp [linesOfPieces, none]
    | cons m ls =>
      have whole : joinLines (l :: m :: ls) = l ++ '\n' :: joinLines (m :: ls) := rfl
      rw [whole] at single
      rw [linesOfPieces, List.pairwise_cons]
      constructor
      · intro _ _ last
        exact single (doubledReturn_of_dropCarriageReturn last _)
      · apply ih
        intro inside
        have behind : joinLines (m :: ls) <:+ l ++ '\n' :: joinLines (m :: ls) :=
          ⟨l ++ ['\n'], by simp⟩
        exact single (inside.trans behind.isInfix)

/-- Without such line ends a line with others below it ends in no carriage return. -/
theorem lines_pairwise (single : ¬ doubledReturn <:+: cs) :
    (lines cs).Pairwise fun l _ => l.getLast? ≠ some '\r' := by
  apply linesOfPieces_pairwise
  rwa [joinLines_pieces]

/-- Trimming takes the carriage return off the last line. -/
theorem getLast?_ne_of_mem_trimOuter (filled : ∀ l ∈ ls, allBlank l = false)
    (upper : ls.Pairwise fun l _ => l.getLast? ≠ some '\r') :
    ∀ l ∈ trimOuter ls, l.getLast? ≠ some '\r' := by
  induction ls using lines_cases with
  | nil => simp [trimOuter_nil]
  | one l =>
    rw [trimOuter_singleton, List.forall_mem_singleton]
    exact (trimmed_trim l).getLast?_ne
  | more l ms m =>
    obtain ⟨first, others⟩ := List.pairwise_cons.mp upper
    obtain ⟨-, -, inner⟩ := List.pairwise_append.mp others
    rw [trimOuter_cons_concat]
    intro x hx
    rcases List.mem_cons.mp hx with rfl | hx
    · rw [getLast?_trimStart (filled l List.mem_cons_self)]
      exact first m (by simp)
    · rcases List.mem_append.mp hx with hx | hx
      · exact inner x hx m List.mem_cons_self
      · rw [List.mem_singleton.mp hx]
        intro last
        have visible := isBlank_last_trimEnd last
        rw [isBlank_carriageReturn] at visible
        cases visible

end LintRepair.Text

namespace LintRepair.Diagnostic
open Text

variable {report : String} {d : Diagnostic}

theorem help_eq_none_of_mem_extract (mem : d ∈ extract report) : d.help = none := by
  obtain ⟨i, -, carries⟩ := exists_carries_of_mem_extract mem
  exact carries.help

/-- Reading, writing and reading again. -/
theorem extract_renderAll_extract (report : String) :
    extract (renderAll (extract report)) = (extract report).map reread := by
  apply extract_renderAll
  · intro d mem
    exact wellFormed_of_mem_extract mem
  · intro d mem h help
    rw [help_eq_none_of_mem_extract mem] at help
    cases help

theorem reread_eq_self_iff (mem : d ∈ extract report) :
    reread d = d ↔ ∀ l ∈ pieces d.context.toList, l.getLast? ≠ some '\r' := by
  have same : withoutHelp d = d := by
    rw [withoutHelp, ← help_eq_none_of_mem_extract mem]
  have canonical := reread_eq_withoutHelp_iff (wellFormed_of_mem_extract mem)
  rw [same] at canonical
  rw [canonical]
  exact ⟨fun h => h.no_return, fun h => ⟨wellFormed_of_mem_extract mem, h⟩⟩

/-- The lines of a context end in no carriage return if no line of the report but the last does. -/
theorem getLast?_ne_of_mem_context
    (single : ¬ doubledReturn <:+: report.toList) (mem : d ∈ extract report) :
    ∀ l ∈ pieces d.context.toList, l.getLast? ≠ some '\r' := by
  obtain ⟨i, starts, carries⟩ := exists_carries_of_mem_extract mem
  have within : (bodyAt (lines report.toList) i).Sublist (lines report.toList) :=
    (List.takeWhile_sublist isBody).trans (List.drop_sublist (i + 2) _)
  have bodies : ∀ l ∈ bodyAt (lines report.toList) i, isBody l = true :=
    fun _ => List.mem_takeWhile_imp
  rw [carries.pieces_context (fun _ => not_mem_of_mem_lines) starts]
  apply getLast?_ne_of_mem_trimOuter
  · intro l hl
    exact not_allBlank_of_isBody (bodies l hl)
  · exact (lines_pairwise single).sublist within

/-- What is read out of a report, written and read again is the same exactly when no line of a
context ends in a carriage return. So it is for every report in which no two carriage returns stand
right before a line feed. -/
theorem extract_stable_iff (report : String) :
    (extract (renderAll (extract report)) = extract report ↔
        ∀ d ∈ extract report, ∀ l ∈ pieces d.context.toList, l.getLast? ≠ some '\r') ∧
      (¬ doubledReturn <:+: report.toList →
        extract (renderAll (extract report)) = extract report) := by
  have stable : extract (renderAll (extract report)) = extract report ↔
      ∀ d ∈ extract report, ∀ l ∈ pieces d.context.toList, l.getLast? ≠ some '\r' := by
    rw [extract_renderAll_extract]
    constructor
    · intro same d mem
      have fixed := List.map_inj_left.mp (same.trans (List.map_id _).symm) d mem
      exact (reread_eq_self_iff mem).mp fixed
    · intro ends
      have fixed : ∀ d ∈ extract report, reread d = id d := fun d mem =>
        (reread_eq_self_iff mem).mpr (ends d mem)
      rw [List.map_congr_left fixed, List.map_id]
  refine ⟨stable, fun single => stable.mpr fun d mem => ?_⟩
  exact getLast?_ne_of_mem_context single mem

/-- Line ends of all kinds, and carriage returns inside lines. -/
def mixedEnds : String :=
  "error[E0308]: mis\rmatched\r\n--> a:1:14\r\n1 | \r\"a\"\r\n  |\n  = note: y\r\r"

theorem extract_stable_mixedEnds :
    ¬ doubledReturn <:+: mixedEnds.toList ∧
      extract (renderAll (extract mixedEnds)) = extract mixedEnds ∧ extract mixedEnds ≠ [] := by
  have single : ¬ doubledReturn <:+: mixedEnds.toList := by decide +kernel
  exact ⟨single, (extract_stable_iff mixedEnds).2 single, by decide +kernel⟩

/-- One line end of this report leaves a carriage return in the context, which is lost when
the context is written and read. -/
theorem extract_unstable :
    extract (renderAll (extract "error[E1]: t\n--> a:1:1\n|\r\r\n|\n")) ≠
      extract "error[E1]: t\n--> a:1:1\n|\r\r\n|\n" := by
  decide +kernel

end LintRepair.Diagnostic
