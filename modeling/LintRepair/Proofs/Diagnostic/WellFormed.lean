import LintRepair.Proofs.Diagnostic.Scan

/-!
The form of every diagnostic that is read out of a report: its parts are trimmed, its location is a
location line, and trimming the context leaves each of its lines a body line. The context has as
many lines as the body it is read off, and only the first and the last of them are trimmed.
-/
namespace LintRepair.Diagnostic
open Text

/-- The form of a diagnostic out of a report, its help apart. -/
structure WellFormed (d : Diagnostic) : Prop where
  code : IsCode d.code.toList
  title_ne_nil : d.title.toList ≠ []
  title_trimmed : Trimmed d.title.toList
  title_line : '\n' ∉ d.title.toList
  location : isLocation d.location.toList = true
  location_trimmed : Trimmed d.location.toList
  location_line : '\n' ∉ d.location.toList
  context_ne_nil : d.context.toList ≠ []
  context_trimmed : Trimmed d.context.toList
  body : ∀ l ∈ pieces d.context.toList, isBody l = true

variable {ls : List (List Char)} {l : List Char} {d : Diagnostic} {i : Nat}

/-- The lines of a context that is read off a body: the body's own, trimmed around all of them. -/
theorem pieces_trim_joinLines {body : List (List Char)} (all : ∀ l ∈ body, isBody l = true)
    (uncut : ∀ l ∈ body, '\n' ∉ l) (ne : body ≠ []) :
    pieces (trim (joinLines body)) = trimOuter body := by
  rw [trim_joinLines fun l hl => not_allBlank_of_isBody (all l hl)]
  refine pieces_joinLines (forall_mem_trimOuter (fun l hl => ?_) (fun l hl => ?_) uncut)
    (trimOuter_ne_nil ne)
  · exact fun hn => hl ((List.dropWhile_sublist isBlank).mem hn)
  · exact fun hn => hl ((List.rdropWhile_prefix isBlank l).sublist.mem hn)

/-- The context of a block has the lines of its body, trimmed around all of them. -/
theorem Carries.pieces_context (uncut : ∀ l ∈ ls, '\n' ∉ l) (starts : StartsBlock ls i)
    (carries : Carries ls i d) : pieces d.context.toList = trimOuter (bodyAt ls i) := by
  have bodies : ∀ l ∈ bodyAt ls i, isBody l = true := fun _ => List.mem_takeWhile_imp
  have uncut_body : ∀ l ∈ bodyAt ls i, '\n' ∉ l := fun l hl =>
    uncut l (List.mem_of_mem_drop ((List.takeWhile_sublist isBody).mem hl))
  rw [carries.context, pieces_trim_joinLines bodies uncut_body starts.bodyAt_ne_nil]

/-- The diagnostic of a block has the form, if no line has a line feed in it. -/
theorem wellFormed_of_carries (uncut : ∀ l ∈ ls, '\n' ∉ l) (starts : StartsBlock ls i)
    (carries : Carries ls i d) : WellFormed d := by
  have context := carries.pieces_context uncut starts
  have nonempty := starts.bodyAt_ne_nil
  obtain ⟨⟨line, before, g, hline, lower, titled⟩, ⟨place, hplace, loc⟩, -⟩ := starts
  obtain ⟨⟨line', h, hline', left, hcode, htitle⟩, ⟨place', hplace', hlocation⟩, hcontext, -⟩ :=
    carries
  obtain rfl : line' = line := Option.some.inj (hline'.symm.trans hline)
  obtain rfl : place' = place := Option.some.inj (hplace'.symm.trans hplace)
  have titled := left.title_of_behind lower titled
  obtain ⟨front, stands, -⟩ := left
  have title_uncut : '\n' ∉ h.title := by
    intro hn
    refine uncut line' (List.mem_of_getElem? hline) ?_
    rw [stands.written, Header.text_eq]
    simp [hn]
  have bodies : ∀ l ∈ bodyAt ls i, isBody l = true := fun _ => List.mem_takeWhile_imp
  exact {
    code := by
      rw [hcode]
      exact stands.code
    title_ne_nil := by
      rw [htitle]
      exact trim_ne_nil_iff.mpr titled
    title_trimmed := by
      rw [htitle]
      exact trimmed_trim h.title
    title_line := by
      rw [htitle]
      exact fun hn => title_uncut (mem_of_mem_trim hn)
    location := by
      rw [hlocation]
      exact isLocation_trim loc
    location_trimmed := by
      rw [hlocation]
      exact trimmed_trim place'
    location_line := by
      rw [hlocation]
      exact fun hn => uncut place' (List.mem_of_getElem? hplace) (mem_of_mem_trim hn)
    context_ne_nil := by
      rw [hcontext]
      exact trim_joinLines_ne_nil bodies nonempty
    context_trimmed := by
      rw [hcontext]
      exact trimmed_trim _
    body := by
      rw [context]
      exact forall_mem_trimOuter (fun l hl => (isBody_trimStart l).trans hl)
        (fun _ => isBody_trimEnd) bodies }

/-- A diagnostic of the lines from the cursor on is matched at one of them. -/
theorem exists_blockAt_of_mem (cursor : Nat) (mem : d ∈ ofLines (ls.drop cursor)) :
    ∃ start next, blockAt ls start = .ok (some (d, next)) := by
  induction cursor using scanFrom.induct ls with
  | case1 cursor inside d' next found ih =>
    rw [ofLines_drop_of_found inside found] at mem
    rcases List.mem_cons.mp mem with rfl | mem
    · exact ⟨cursor, next, found⟩
    · exact ih mem
  | case2 cursor inside missed ih =>
    rw [ofLines_drop_of_missed inside missed] at mem
    exact ih mem
  | case3 cursor inside e failed => simp [blockAt_of_lt inside] at failed
  | case4 cursor outside =>
    rw [List.drop_eq_nil_of_le (Nat.le_of_not_lt outside), ofLines] at mem
    exact absurd mem List.not_mem_nil

/-- Every diagnostic of a report is that of one of its blocks. -/
theorem exists_carries_of_mem_extract {report : String} (mem : d ∈ extract report) :
    ∃ i, StartsBlock (lines report.toList) i ∧ Carries (lines report.toList) i d := by
  obtain ⟨start, next, found⟩ := exists_blockAt_of_mem 0 mem
  obtain ⟨starts, carries, -⟩ := startsBlock_of_blockAt found
  exact ⟨start, starts, carries⟩

/-- Every diagnostic of a report has the form. -/
theorem wellFormed_of_mem_extract {report : String} (mem : d ∈ extract report) : WellFormed d := by
  obtain ⟨i, starts, carries⟩ := exists_carries_of_mem_extract mem
  exact wellFormed_of_carries (fun _ => not_mem_of_mem_lines) starts carries

/-- A diagnostic of the form that is read off the lines from number `start` up to before number
`next`: a header, a location line and one body line for each line of its context. -/
structure ReadOff (ls : List (List Char)) (start next : Nat) (d : Diagnostic) : Prop
    extends WellFormed d where
  found : blockAt ls start = .ok (some (d, next))
  reading : ofLines (ls.drop start) = d :: ofLines (ls.drop next)
  arrow : "-->".toList <+: d.location.toList
  column : ∃ c, d.location.toList.getLast? = some c ∧ isDigit c = true
  context_length : start + 2 + (pieces d.context.toList).length = next
  context_inner : ∀ k, 0 < k → k + 1 < (pieces d.context.toList).length →
    (pieces d.context.toList)[k]? = ls[start + 2 + k]?
  help : d.help = none

theorem readOff_of_blockAt {next : Nat} (uncut : ∀ l ∈ ls, '\n' ∉ l)
    (found : blockAt ls i = .ok (some (d, next))) : ReadOff ls i next d := by
  obtain ⟨starts, carries, stop⟩ := startsBlock_of_blockAt found
  have wf : WellFormed d := wellFormed_of_carries uncut starts carries
  have place : IsPlace d.location.toList := isPlace_of_trimmed wf.location wf.location_trimmed
  have context := carries.pieces_context uncut starts
  have length : (pieces d.context.toList).length = (bodyAt ls i).length := by
    rw [context, length_trimOuter]
  exact { wf with
    found
    reading := ofLines_drop_of_found starts.lt_length found
    arrow := place.arrow_isPrefix
    column := place.exists_getLast?_eq
    context_length := by rw [length, stop, blockEnd]
    context_inner := by
      intro k behind before
      rw [length] at before
      rw [context, getElem?_trimOuter behind before, getElem?_bodyAt (Nat.lt_of_succ_lt before)]
    help := carries.help }

/-- Every diagnostic of a report has the form and is read off lines of the report, whatever
characters these lines are made of. -/
theorem readOff_of_mem_extract {report : String} (mem : d ∈ extract report) :
    ∃ start next, ReadOff (lines report.toList) start next d := by
  obtain ⟨start, next, found⟩ := exists_blockAt_of_mem 0 mem
  exact ⟨start, next, readOff_of_blockAt (fun _ => not_mem_of_mem_lines) found⟩

/-- White space and digits of several scripts. -/
def worldly : String :=
  "x error[E\u0663]: \u3000t\u00a0\n\u2003-->\u2028a:1:\u0967 \r\n \u0664 | a \n\t= b\u0085\n|\u3000c\u2029\n"

theorem readOff_of_mem_extract_worldly :
    let d : Diagnostic :=
      ⟨"E\u0663", "t", "-->\u2028a:1:\u0967", "\u0664 | a \n\t= b\u0085\n|\u3000c", none⟩
    d ∈ extract worldly ∧ ∃ start next, ReadOff (lines worldly.toList) start next d := by
  intro d
  have mem : d ∈ extract worldly := by decide +kernel
  exact ⟨mem, readOff_of_mem_extract mem⟩

end LintRepair.Diagnostic
