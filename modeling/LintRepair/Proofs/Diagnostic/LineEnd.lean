import LintRepair.Diagnostic.Extract
import LintRepair.Proofs.Text.Lines

/-!
Line ends with a carriage return and without. A report whose line ends have none keeps its lines,
and so its diagnostics, when carriage returns are put before any of its line feeds.
-/
namespace LintRepair.Text

/-- The text with a carriage return put before each line feed that is `chosen` by its number among
the line feeds of the text. -/
def withReturns : (Nat → Bool) → List Char → List Char
  | _, [] => []
  | chosen, c :: cs =>
    if c = '\n' then
      (if chosen 0 then ['\r', '\n'] else ['\n']) ++ withReturns (fun n => chosen (n + 1)) cs
    else c :: withReturns chosen cs

variable {cs front : List Char}

/-- No line feed has a carriage return right before it. -/
def BareFeeds (cs : List Char) : Prop := ¬ ['\r', '\n'] <:+: cs

instance (cs : List Char) : Decidable (BareFeeds cs) := inferInstanceAs (Decidable (¬ _))

theorem BareFeeds.of_append (bare : BareFeeds (front ++ cs)) : BareFeeds cs := fun inside =>
  bare (inside.trans (List.suffix_append front cs).isInfix)

theorem BareFeeds.getLast?_ne (bare : BareFeeds (front ++ '\n' :: cs)) :
    front.getLast? ≠ some '\r' := by
  intro last
  obtain ⟨before, rfl⟩ := List.getLast?_eq_some_iff.mp last
  exact bare ⟨before, cs, by simp⟩

theorem lines_append_return (uncut : '\n' ∉ front) (cs : List Char) :
    lines (front ++ '\r' :: '\n' :: cs) = front :: lines cs := by
  have uncut' : '\n' ∉ front ++ ['\r'] := by simp [uncut]
  have whole : front ++ '\r' :: '\n' :: cs = (front ++ ['\r']) ++ '\n' :: cs := by simp
  rw [whole, lines_append_lineFeed, pieces_of_not_mem uncut', List.map_singleton,
    dropCarriageReturn_concat, List.singleton_append]

/-- `front` is what has been passed of the current line. Where a line feed comes next it is the whole
line in both texts, since no carriage return is at its end. -/
theorem lines_append_withReturns (uncut : '\n' ∉ front) (bare : BareFeeds (front ++ cs))
    (chosen : Nat → Bool) : lines (front ++ withReturns chosen cs) = lines (front ++ cs) := by
  induction cs generalizing front chosen with
  | nil => rfl
  | cons c cs ih =>
    by_cases feed : c = '\n'
    · subst feed
      have whole : BareFeeds ((front ++ ['\n']) ++ cs) := by simpa using bare
      have rest : lines ([] ++ withReturns (fun n => chosen (n + 1)) cs) = lines ([] ++ cs) :=
        ih List.not_mem_nil whole.of_append _
      rw [lines_append_of_uncut uncut bare.getLast?_ne, withReturns, if_pos rfl]
      simp only [List.nil_append] at rest
      by_cases put : chosen 0 = true
      · rw [if_pos put, List.cons_append, List.singleton_append, lines_append_return uncut, rest]
      · rw [if_neg put, List.singleton_append, lines_append_of_uncut uncut bare.getLast?_ne, rest]
    · have uncut' : '\n' ∉ front ++ [c] := by simp [uncut, Ne.symm feed]
      have step := ih uncut' (by simpa using bare) chosen
      rw [withReturns, if_neg feed]
      simpa using step

theorem lines_withReturns (bare : BareFeeds cs) (chosen : Nat → Bool) :
    lines (withReturns chosen cs) = lines cs := by
  have whole : lines ([] ++ withReturns chosen cs) = lines ([] ++ cs) :=
    lines_append_withReturns List.not_mem_nil bare chosen
  exact whole

end LintRepair.Text

namespace LintRepair.Diagnostic
open Text

/-- A report in which no carriage return stands right before a line feed gives the same diagnostics
with carriage returns before any of its line feeds. -/
theorem extract_withReturns (report : String) (bare : BareFeeds report.toList)
    (chosen : Nat → Bool) :
    extract (String.ofList (withReturns chosen report.toList)) = extract report := by
  rw [extract, String.toList_ofList, lines_withReturns bare chosen, extract]

/-- Carriage returns inside lines, one of them at the end of the text. -/
def strayReturns : String :=
  "error[E0308]: mis\rmatched\n--> a:1:14\n1 | \r\"a\"\n\r  |\n  = note: y\r"

theorem extract_withReturns_stray :
    BareFeeds strayReturns.toList ∧
      String.ofList (withReturns (fun n => n % 2 = 0) strayReturns.toList) =
        "error[E0308]: mis\rmatched\r\n--> a:1:14\n1 | \r\"a\"\r\n\r  |\n  = note: y\r" ∧
      extract "error[E0308]: mis\rmatched\r\n--> a:1:14\n1 | \r\"a\"\r\n\r  |\n  = note: y\r" =
        extract strayReturns ∧
      extract strayReturns ≠ [] := by
  have bare : BareFeeds strayReturns.toList := by decide +kernel
  have text : String.ofList (withReturns (fun n => n % 2 = 0) strayReturns.toList) =
      "error[E0308]: mis\rmatched\r\n--> a:1:14\n1 | \r\"a\"\r\n\r  |\n  = note: y\r" := by
    decide +kernel
  have same := extract_withReturns strayReturns bare fun n => n % 2 = 0
  rw [text] at same
  exact ⟨bare, text, same, by decide +kernel⟩

end LintRepair.Diagnostic
