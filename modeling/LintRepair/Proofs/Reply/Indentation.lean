import LintRepair.Proofs.Reply.Choice

/-!
A block whose lines are all indented alike. Its fences are still fences and its body is still open
at the same lines, so it is the same block, and what is taken out of it is the source without the
indentation.
-/
namespace LintRepair.Reply
open Text

/-- The lines of a source between fences, each behind the same indentation. -/
def indentedBlock (indent info s : List Char) : List (List Char) :=
  (indent ++ (ticks ++ info)) :: ((pieces s).map (indent ++ ·) ++ [indent ++ ticks])

variable {indent info s : List Char} {above below : List (List Char)}

theorem unindent_append (indent l : List Char) : unindent indent (indent ++ l) = l := by
  rw [unindent, after?_append]

theorem not_mem_of_indented {c : Char} (hc : isIndent c = false)
    (indented : ∀ d ∈ indent, isIndent d = true) : c ∉ indent := by
  intro mem
  rw [indented c mem] at hc
  cases hc

theorem uncut_indented (indented : ∀ c ∈ indent, isIndent c = true) :
    ∀ l ∈ (pieces s).map (indent ++ ·), '\n' ∉ l := by
  intro l hl
  obtain ⟨m, hm, rfl⟩ := List.mem_map.mp hl
  rw [List.mem_append, not_or]
  exact ⟨not_mem_of_indented (by decide) indented, not_mem_of_mem_split hm⟩

/-- The lines of an indented body are those of the source, each behind the indentation. -/
theorem lines_text_indented (indented : ∀ c ∈ indent, isIndent c = true) (unreturned : '\r' ∉ s)
    (info : List Char) : lines (⟨indent, info, (pieces s).map (indent ++ ·)⟩ : Fence).text =
      (pieces s).map (indent ++ ·) := by
  have filled : (pieces s).map (indent ++ ·) ≠ [] := by simp [pieces_ne_nil]
  have kept : ∀ l ∈ (pieces s).map (indent ++ ·), dropCarriageReturn l = id l := by
    intro l hl
    obtain ⟨m, hm, rfl⟩ := List.mem_map.mp hl
    apply dropCarriageReturn_of_ne
    intro last
    rcases List.mem_append.mp (List.mem_of_getLast? last) with mem | mem
    · exact not_mem_of_indented (by decide) indented mem
    · exact unreturned ((isInfix_of_mem_pieces hm).mem mem)
  rw [Fence.text_eq _ filled, lines_append_lineFeed,
    pieces_joinLines (uncut_indented indented) filled, lines_nil, List.append_nil,
    List.map_congr_left kept, List.map_id]

/-- The body of an indented block less the indentation: the source, with a line feed behind it if
there was nothing to take off. -/
theorem dedented_indented (indented : ∀ c ∈ indent, isIndent c = true) (unreturned : '\r' ∉ s)
    (info : List Char) :
    (⟨indent, info, (pieces s).map (indent ++ ·)⟩ : Fence).dedented =
      if indent.isEmpty then s ++ ['\n'] else s := by
  have undone : unindent indent ∘ (indent ++ ·) = id := funext (unindent_append indent)
  rw [Fence.dedented]
  cases indent with
  | nil =>
    rw [if_pos List.isEmpty_nil, if_pos List.isEmpty_nil, ← dedented_wrapped info s, Fence.dedented,
      if_pos List.isEmpty_nil]
    simp
  | cons c indent =>
    rw [lines_text_indented indented unreturned, List.map_map, undone, List.map_id,
      joinLines_pieces]
    rfl

theorem fences_indented (indented : ∀ c ∈ indent, isIndent c = true)
    (unclosed : ∀ l ∈ pieces s, isClosing l = false)
    (prose : ∀ l ∈ above ++ below, opening? l = none) (info : List Char) :
    fences (above ++ indentedBlock indent info s ++ below) =
      [⟨indent, info, (pieces s).map (indent ++ ·)⟩] := by
  rw [List.forall_mem_append] at prose
  have inner : ∀ l ∈ (pieces s).map (indent ++ ·), isClosing l = false := by
    rw [List.forall_mem_map]
    intro l hl
    rw [isClosing_append indented, unclosed l hl]
  have closes : isClosing (indent ++ ticks) = true := by
    rw [isClosing_append indented, isClosing_ticks]
  have none : fences below = [] := by
    have behind := fences_append_of_unopened prose.2 []
    rwa [List.append_nil, fences] at behind
  rw [List.append_assoc, fences_append_of_unopened prose.1, indentedBlock, List.cons_append,
    List.append_assoc, List.singleton_append,
    fences_cons_of_closed (opening?_append_ticks indented info) inner closes, none]

/-- A reply with a single block that is indented offers the source in it, tidied at both ends. -/
theorem source?_indentedBlock (indented : ∀ c ∈ indent, isIndent c = true) (plain : '\n' ∉ info)
    (tagged : (⟨[], info, pieces s⟩ : Fence).isUsable = true) (filled : allBlank s = false)
    (unreturned : '\r' ∉ s) (unclosed : ∀ l ∈ pieces s, isClosing l = false)
    (prose : ∀ l ∈ above ++ below, opening? l = none) (uncut : ∀ l ∈ above ++ below, '\n' ∉ l) :
    source? (String.ofList (joinLines (above ++ indentedBlock indent info s ++ below))) =
      some (String.ofList (trimEnd (s.dropWhile isLineEnd) ++ ['\n'])) := by
  have lines_uncut : ∀ l ∈ above ++ indentedBlock indent info s ++ below, '\n' ∉ l := by
    have opener : '\n' ∉ indent ++ (ticks ++ info) := by
      simp only [List.mem_append, not_or]
      exact ⟨not_mem_of_indented (by decide) indented, by decide, plain⟩
    have closer : '\n' ∉ indent ++ ticks := by
      rw [List.mem_append, not_or]
      exact ⟨not_mem_of_indented (by decide) indented, by decide⟩
    have body := uncut_indented (s := s) indented
    rw [List.forall_mem_append] at uncut
    simp only [indentedBlock, List.forall_mem_append, List.forall_mem_cons]
    exact ⟨⟨uncut.1, opener, body, closer, nofun⟩, uncut.2⟩
  have filled_lines : above ++ indentedBlock indent info s ++ below ≠ [] := by simp [indentedBlock]
  have chosen : Chosen (fences (pieces (String.ofList (joinLines
      (above ++ indentedBlock indent info s ++ below))).toList))
      ⟨indent, info, (pieces s).map (indent ++ ·)⟩ := by
    rw [String.toList_ofList, pieces_joinLines lines_uncut filled_lines,
      fences_indented indented unclosed prose]
    exact ⟨tagged, [], [], rfl, nofun, nofun⟩
  rw [source?_of_chosen chosen, dedented_indented indented unreturned]
  cases indent.isEmpty with
  | true =>
    have more : allBlank (s ++ ['\n']) = false := by
      rw [← Bool.not_eq_true, allBlank_append, filled]
      simp
    rw [if_pos rfl, more, tidied_append_lineFeed filled]
    rfl
  | false =>
    rw [if_neg Bool.false_ne_true, filled]
    rfl

/-- How far a block is indented does not matter to what is taken out of it. -/
theorem source?_unindented (indented : ∀ c ∈ indent, isIndent c = true) (plain : '\n' ∉ info)
    (tagged : (⟨[], info, pieces s⟩ : Fence).isUsable = true) (filled : allBlank s = false)
    (unreturned : '\r' ∉ s) (unclosed : ∀ l ∈ pieces s, isClosing l = false)
    (prose : ∀ l ∈ above ++ below, opening? l = none) (uncut : ∀ l ∈ above ++ below, '\n' ∉ l) :
    source? (String.ofList (joinLines (above ++ indentedBlock indent info s ++ below))) =
        source? (String.ofList (joinLines (above ++ indentedBlock [] info s ++ below))) ∧
      source? (String.ofList (joinLines (above ++ indentedBlock [] info s ++ below))) =
        some (String.ofList (trimEnd (s.dropWhile isLineEnd) ++ ['\n'])) := by
  have flush : ∀ c ∈ ([] : List Char), isIndent c = true := nofun
  have behind := source?_indentedBlock indented plain tagged filled unreturned unclosed prose uncut
  have flat := source?_indentedBlock flush plain tagged filled unreturned unclosed prose uncut
  exact ⟨behind.trans flat.symm, flat⟩

/-- Here the source has a blank line, a line with a fence that is not bare, and a nested line. -/
theorem source?_unindented_nested :
    let indent := "  \t".toList
    let info := "RUST,ignore".toList
    let s := "\n// ```\n  f();\n\n".toList
    let above := ["1. Like this:".toList, []]
    let below := ["``".toList]
    (∀ c ∈ indent, isIndent c = true) ∧ '\n' ∉ info ∧
      (⟨[], info, pieces s⟩ : Fence).isUsable = true ∧ allBlank s = false ∧ '\r' ∉ s ∧
      (∀ l ∈ pieces s, isClosing l = false) ∧ (∀ l ∈ above ++ below, opening? l = none) ∧
      (∀ l ∈ above ++ below, '\n' ∉ l) ∧
      source? (String.ofList (joinLines (above ++ indentedBlock indent info s ++ below))) =
        source? (String.ofList (joinLines (above ++ indentedBlock [] info s ++ below))) ∧
      source? (String.ofList (joinLines (above ++ indentedBlock [] info s ++ below))) =
        some "// ```\n  f();\n" := by
  intro indent info s above below
  have indented : ∀ c ∈ indent, isIndent c = true :=
    List.all_eq_true.mp (by decide : indent.all isIndent = true)
  have plain : '\n' ∉ info := by decide
  have tagged : (⟨[], info, pieces s⟩ : Fence).isUsable = true := by decide +kernel
  have filled : allBlank s = false := by decide
  have unreturned : '\r' ∉ s := by decide
  have unclosed : ∀ l ∈ pieces s, isClosing l = false := by decide +kernel
  have prose : ∀ l ∈ above ++ below, opening? l = none := by decide +kernel
  have uncut : ∀ l ∈ above ++ below, '\n' ∉ l := by decide +kernel
  obtain ⟨same, source⟩ :=
    source?_unindented indented plain tagged filled unreturned unclosed prose uncut
  refine ⟨indented, plain, tagged, filled, unreturned, unclosed, prose, uncut, same, ?_⟩
  rw [source]
  decide +kernel

end LintRepair.Reply
