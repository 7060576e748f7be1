import LintRepair.Command.Runner
import LintRepair.Proofs.Command.Capture
import LintRepair.Proofs.Diagnostic.Sequence

/-!
Reports of which only the first bytes were kept. The cut may fall anywhere, also inside a character
or a line end. What is read above it is what the whole report says; only the context of the last
diagnostic may be cut short, and nothing is found that the whole report does not have.
-/
namespace LintRepair.Diagnostic
open Text

/-- A context without a broken character at its end and without the white space before that. -/
def intact (cs : List Char) : List Char :=
  trimEnd (if cs.getLast? = some Utf8.replacement then cs.dropLast else cs)

/-- The first diagnostic is the second one, but for a context that may end early. -/
structure CutShort (d e : Diagnostic) : Prop where
  code : d.code = e.code
  title : d.title = e.title
  location : d.location = e.location
  context : intact d.context.toList <+: e.context.toList

/-- The diagnostics above a cut, against those of the whole report. -/
inductive Cut : List Diagnostic → List Diagnostic → Prop where
  | nothing (es : List Diagnostic) : Cut [] es
  | last {d e : Diagnostic} (short : CutShort d e) (es : List Diagnostic) : Cut [d] (e :: es)
  | same {ds es : List Diagnostic} (d : Diagnostic) (rest : Cut ds es) : Cut (d :: ds) (d :: es)

variable {ds es : List Diagnostic} {d e : Diagnostic} {a b p line location : List Char}
variable {ms last full body : List (List Char)} {h : Header}

theorem intact_isPrefix (cs : List Char) : intact cs <+: cs := by
  refine (trimEnd_isPrefix _).trans ?_
  split
  · exact List.dropLast_prefix cs
  · exact List.prefix_rfl

theorem CutShort.refl (d : Diagnostic) : CutShort d d := ⟨rfl, rfl, rfl, intact_isPrefix _⟩

theorem Cut.length_le (cut : Cut ds es) : ds.length ≤ es.length := by
  induction cut with
  | nothing es => exact Nat.zero_le _
  | last short es => simp
  | same d rest ih => simpa using ih

theorem Cut.getElem?_eq (cut : Cut ds es) {i : Nat} (before : i + 1 < ds.length) :
    ds[i]? = es[i]? := by
  induction cut generalizing i with
  | nothing es => simp at before
  | last short es => simp at before
  | same d rest ih =>
    cases i with
    | zero => rfl
    | succ i => exact ih (Nat.lt_of_succ_lt_succ before)

theorem Cut.getLast? (cut : Cut ds es) (hd : ds.getLast? = some d) :
    ∃ e, es[ds.length - 1]? = some e ∧ CutShort d e := by
  induction cut with
  | nothing es => simp at hd
  | @last d' e short es =>
    obtain rfl : d' = d := by simpa using hd
    exact ⟨e, rfl, short⟩
  | @same ds es d' rest ih =>
    cases ds with
    | nil =>
      obtain rfl : d' = d := by simpa using hd
      exact ⟨d', rfl, .refl d'⟩
    | cons d₁ ds =>
      rw [List.getLast?_cons_cons] at hd
      exact ih hd

theorem intact_concat (cs : List Char) : intact (cs ++ [Utf8.replacement]) = trimEnd cs := by
  rw [intact, List.getLast?_concat, if_pos rfl, List.dropLast_concat]

/-- A text that ends at the cut, perhaps with a broken character, has no other context than a text
that goes on from there. -/
theorem intact_trim_isPrefix {broken : List Char}
    (ending : broken = [] ∨ broken = [Utf8.replacement]) (goes_on : trimEnd a <+: b) :
    intact (trim (a ++ broken)) <+: trim b := by
  have kept : trim a <+: trim b := trim_prefix_of_trimEnd goes_on
  have visible : isBlank Utf8.replacement = false := by decide
  rcases ending with rfl | rfl
  · rw [List.append_nil]
    exact (intact_isPrefix _).trans kept
  by_cases blank : allBlank a = true
  · have only : trim (a ++ [Utf8.replacement]) = [] ++ [Utf8.replacement] :=
      trim_append_cons blank visible
    rw [only, intact_concat]
    exact List.nil_prefix
  · rw [trim, trimStart_append_of_not_allBlank (Bool.eq_false_iff.mpr blank), trimEnd,
      dropEnd_append_of_neg _ visible, intact_concat]
    exact kept

/-- How the lines above a cut end against those of the whole report: in at most one line that may
be cut short. If that line is a body line, so is the one that goes on from it. -/
structure LastLine (last full : List (List Char)) : Prop where
  single : last.length ≤ 1
  body : ∀ l, last.head? = some l → isBody l = true → ∃ p broken m more, l = p ++ broken ∧
    (broken = [] ∨ broken = [Utf8.replacement]) ∧ full = m :: more ∧ isBody m = true ∧
    trimEnd p <+: m

theorem lastLine_lines {broken : List Char} (uncut : '\n' ∉ p)
    (ending : broken = [] ∨ broken = [Utf8.replacement]) (rest : List Char) :
    LastLine (lines (p ++ broken)) (lines (p ++ rest)) := by
  have uncut' : '\n' ∉ p ++ broken := by
    rcases ending with rfl | rfl <;> simp [uncut, Utf8.replacement]
  by_cases none : p ++ broken = []
  · rw [none, lines_nil]
    exact ⟨Nat.zero_le 1, nofun⟩
  rw [lines_of_uncut uncut' none]
  refine ⟨Nat.le_refl 1, fun l hl body => ?_⟩
  obtain rfl : p ++ broken = l := Option.some.inj hl
  have body_kept : isBody p = true := by
    rcases ending with rfl | rfl
    · rwa [List.append_nil] at body
    · exact isBody_of_concat body (by decide)
  have ne : p ≠ [] := by
    rintro rfl
    exact Bool.false_ne_true body_kept
  obtain ⟨m, more, goes_on, first⟩ := exists_lines_cons uncut ne rest
  have body_whole := isBody_of_isPrefix body_kept goes_on
  rcases first with first | first
  · exact ⟨p, broken, m, more, rfl, ending, first, body_whole,
      (trimEnd_isPrefix p).trans goes_on⟩
  · exact ⟨p, broken, dropCarriageReturn m, more, rfl, ending, first,
      isBody_dropCarriageReturn body_whole, trimEnd_isPrefix_dropCarriageReturn goes_on⟩

/-- A body that is open at the cut goes on in the whole report, and its context with it. -/
theorem LastLine.context (tail : LastLine last full) (body : List (List Char)) :
    intact (trim (joinLines (body ++ last.takeWhile isBody))) <+:
      trim (joinLines (body ++ full.takeWhile isBody)) := by
  have without : intact (trim (joinLines body)) <+:
      trim (joinLines (body ++ full.takeWhile isBody)) :=
    (intact_isPrefix _).trans (trim_prefix_trim (joinLines_isPrefix body _))
  rcases last with _ | ⟨l, _ | ⟨l', last⟩⟩
  · rwa [List.takeWhile_nil, List.append_nil]
  · by_cases hl : isBody l = true
    · obtain ⟨p, broken, m, more, rfl, ending, rfl, hm, goes_on⟩ := tail.body l rfl hl
      obtain ⟨front, joined⟩ := exists_joinLines_concat body
      have longer : front ++ m <+: joinLines (body ++ (m :: more).takeWhile isBody) := by
        have further := joinLines_isPrefix (body ++ [m]) (more.takeWhile isBody)
        rwa [joined, List.append_assoc, List.singleton_append, ← List.takeWhile_cons_of_pos hm]
          at further
      rw [List.takeWhile_cons_of_pos hl, List.takeWhile_nil, joined, ← List.append_assoc]
      apply intact_trim_isPrefix ending
      exact (trimEnd_append_isPrefix front p).trans
        (((List.prefix_append_right_inj front).mpr goes_on).trans longer)
    · rwa [List.takeWhile_cons_of_neg hl, List.append_nil]
  · have := tail.single
    simp at this

theorem LastLine.takeWhile_ne_nil (tail : LastLine last full) (ne : last.takeWhile isBody ≠ []) :
    full.takeWhile isBody ≠ [] := by
  rcases last with _ | ⟨l, last⟩
  · exact absurd rfl ne
  · by_cases hl : isBody l = true
    · obtain ⟨p, broken, m, more, rfl, ending, rfl, hm, goes_on⟩ := tail.body l rfl hl
      rw [List.takeWhile_cons_of_pos hm]
      exact List.cons_ne_nil _ _
    · exact absurd (List.takeWhile_cons_of_neg hl) ne

/-- A block that is open at the end of some lines and goes on in the lines behind. -/
theorem Opening.ofLines_unfinished (opening : Opening line location h)
    (bodies : ∀ l ∈ body, isBody l = true) (ne : body ++ ms.takeWhile isBody ≠ []) :
    ofLines (line :: location :: (body ++ ms)) =
      ofParts h location (body ++ ms.takeWhile isBody) :: ofLines (ms.dropWhile isBody) := by
  have all : ∀ l ∈ body ++ ms.takeWhile isBody, isBody l = true := by
    intro l hl
    rcases List.mem_append.mp hl with hl | hl
    · exact bodies l hl
    · exact List.mem_takeWhile_imp hl
  have closed : ∀ l, (ms.dropWhile isBody).head? = some l → isBody l = false := by
    intro l hl
    have := List.head?_dropWhile_not isBody ms
    simpa [hl] using this
  have block := opening.ofLines_block all ne closed
  rwa [List.append_assoc, List.takeWhile_append_dropWhile] at block

theorem cut_ofLines_append (tail : LastLine last full) (ls : List (List Char)) :
    Cut (ofLines (ls ++ last)) (ofLines (ls ++ full)) := by
  induction ls using reading_induction with
  | nil =>
    rw [List.nil_append, ofLines_of_short (tail.single.trans (by decide))]
    exact .nothing _
  | one line =>
    have short : (line :: last).length ≤ 2 := Nat.succ_le_succ tail.single
    rw [List.singleton_append, ofLines_of_short short]
    exact .nothing _
  | passed line below same ih =>
    rw [List.cons_append, List.cons_append, same, same]
    exact ih
  | closed d block rest read ih =>
    rw [read, read]
    exact .same d ih
  | unfinished line location body h opening bodies =>
    rw [List.cons_append, List.cons_append, List.cons_append, List.cons_append]
    by_cases bodiless : body ++ last.takeWhile isBody = []
    · obtain ⟨rfl, none⟩ := List.append_eq_nil_iff.mp bodiless
      have passed : ofLines (line :: location :: last) = ofLines (location :: last) := by
        apply ofLines_cons_of_bodiless
        intro l hl
        by_contra body
        cases last with
        | nil => cases hl
        | cons k last =>
          obtain rfl : k = l := Option.some.inj hl
          simp [body] at none
      have short : (location :: last).length ≤ 2 := Nat.succ_le_succ tail.single
      rw [List.nil_append, passed, ofLines_of_short short]
      exact .nothing _
    · have goes_on : body ++ full.takeWhile isBody ≠ [] := by
        intro none
        obtain ⟨rfl, none⟩ := List.append_eq_nil_iff.mp none
        exact tail.takeWhile_ne_nil bodiless none
      have nothing_left : ofLines (last.dropWhile isBody) = [] := by
        apply ofLines_of_short
        have := (List.dropWhile_sublist isBody (l := last)).length_le
        have := tail.single
        omega
      rw [opening.ofLines_unfinished bodies bodiless, nothing_left,
        opening.ofLines_unfinished bodies goes_on]
      have short : CutShort (ofParts h location (body ++ last.takeWhile isBody))
          (ofParts h location (body ++ full.takeWhile isBody)) :=
        ⟨rfl, rfl, rfl, by simpa [ofParts] using tail.context body⟩
      exact .last short _

/-- Two texts with the same beginning, one of them cut behind it. -/
theorem cut_extract (kept rest : List Char) {broken : List Char}
    (ending : broken = [] ∨ broken = [Utf8.replacement]) :
    Cut (extract (String.ofList (kept ++ broken))) (extract (String.ofList (kept ++ rest))) := by
  obtain ⟨ls, p, uncut, split⟩ := exists_lines_append kept
  unfold extract
  rw [String.toList_ofList, String.toList_ofList, split, split]
  exact cut_ofLines_append (lastLine_lines uncut ending rest) ls

/-- Of a command's error output only the first bytes are kept. The diagnostics read out of these are
the first ones of the whole output, one by one. Only the last of them may have a shorter context, a
broken character at the cut and the white space before it apart. -/
theorem extract_capture (e : Execution) (limit : Nat) :
    let cut := extract (Toolchain.lintOutput (e.capture limit)).stderr
    let full := extract (lossyText e.stderr.flatten)
    cut.length ≤ full.length ∧ (∀ i, i + 1 < cut.length → cut[i]? = full[i]?) ∧
      ∀ d, cut.getLast? = some d → ∃ w, full[cut.length - 1]? = some w ∧ CutShort d w := by
  intro cut full
  have holds := Capture.holds_ofChunks limit e.stderr
  obtain ⟨kept, broken, rest, start, ending, whole⟩ := Utf8.exists_decodeLossy_append
    (e.stderr.flatten.take limit) (e.stderr.flatten.drop limit)
  rw [List.take_append_drop] at whole
  have cut_eq : cut = extract (String.ofList (kept ++ broken)) := by
    rw [← start, ← holds.kept]
    rfl
  have full_eq : full = extract (String.ofList (kept ++ rest)) := by
    rw [← whole]
    rfl
  have related : Cut cut full := by
    rw [cut_eq, full_eq]
    exact cut_extract kept rest ending
  exact ⟨related.length_le, fun i before => related.getElem?_eq before,
    fun d last => related.getLast? last⟩

/-- The limit falls inside the last character of the context, whose first byte alone is kept. -/
example :
    let e : Execution := { stderr := ["error[E1]: t\n--> a:1:1\n1 | \u00e9".toUTF8.toList] }
    (extract (Toolchain.lintOutput (e.capture 28)).stderr).map context = ["1 | \ufffd"] := by
  decide +kernel

end LintRepair.Diagnostic
