import LintRepair.Proofs.Diagnostic.Sequence
import LintRepair.Proofs.Diagnostic.WellFormed

/-!
Writing diagnostics and reading them again. The lines of what is written are known, and reading
them gives each diagnostic once: without its help, and without a carriage return at the end of a
context line.
-/
namespace LintRepair.Diagnostic
open Text

/-- The form in which a diagnostic is read as it was written. -/
structure Canonical (d : Diagnostic) : Prop extends WellFormed d where
  no_return : ∀ l ∈ pieces d.context.toList, l.getLast? ≠ some '\r'

def withoutHelp (d : Diagnostic) : Diagnostic := { d with help := none }

/-- What is left of a diagnostic when it is written and read. -/
def reread (d : Diagnostic) : Diagnostic :=
  { d with
    context := String.ofList (joinLines ((pieces d.context.toList).map dropCarriageReturn))
    help := none }

/-- The help below a diagnostic as it is written. -/
def helpText (d : Diagnostic) : List Char :=
  match d.help with
  | none => []
  | some h => "help: ".toList ++ h.toList ++ ['\n']

variable {d : Diagnostic} {ds : List Diagnostic} {rest : List Char}

theorem render_eq (d : Diagnostic) : render d =
    "error[" ++ d.code ++ "]: " ++ d.title ++ "\n " ++ d.location ++ "\n" ++ d.context ++ "\n" ++
      (match d.help with
        | none => ""
        | some h => "help: " ++ h ++ "\n") := rfl

theorem toList_render_append (d : Diagnostic) (rest : List Char) : (render d).toList ++ rest =
    Header.text ⟨d.code.toList, d.title.toList⟩ ++ '\n' :: (' ' :: d.location.toList ++
      '\n' :: (d.context.toList ++ '\n' :: (helpText d ++ rest))) := by
  rw [Header.text_eq, helpText, render_eq]
  cases d.help <;> simp

theorem WellFormed.of_withoutHelp (wf : WellFormed (withoutHelp d)) : WellFormed d where
  code := wf.code
  title_ne_nil := wf.title_ne_nil
  title_trimmed := wf.title_trimmed
  title_line := wf.title_line
  location := wf.location
  location_trimmed := wf.location_trimmed
  location_line := wf.location_line
  context_ne_nil := wf.context_ne_nil
  context_trimmed := wf.context_trimmed
  body := wf.body

/-- Written diagnostics by their lines: a header, a location line, the lines of the context each
without a carriage return at its end, and the help. -/
theorem lines_render_append (wf : WellFormed d) (rest : List Char) :
    lines ((render d).toList ++ rest) =
      Header.text ⟨d.code.toList, d.title.toList⟩ :: (' ' :: d.location.toList) ::
        ((pieces d.context.toList).map dropCarriageReturn ++ lines (helpText d ++ rest)) := by
  have header_uncut : '\n' ∉ Header.text ⟨d.code.toList, d.title.toList⟩ := by
    obtain ⟨digits, number, hcode⟩ := wf.code
    have digitless : '\n' ∉ digits := fun mem => absurd (number.digits '\n' mem) (by decide)
    rw [Header.text_eq]
    simp [hcode, digitless, wf.title_line]
  have header_last : (Header.text ⟨d.code.toList, d.title.toList⟩).getLast? ≠ some '\r' := by
    rw [Header.text_eq, List.getLast?_append_of_ne_nil _ wf.title_ne_nil]
    exact wf.title_trimmed.getLast?_ne
  have location_uncut : '\n' ∉ ' ' :: d.location.toList := by simp [wf.location_line]
  have location_last : (' ' :: d.location.toList).getLast? ≠ some '\r' := by
    rw [List.getLast?_cons]
    cases last : d.location.toList.getLast? with
    | none => simp
    | some c => exact fun hr => wf.location_trimmed.getLast?_ne (by rw [last]; exact hr)
  rw [toList_render_append, lines_append_of_uncut header_uncut header_last,
    lines_append_of_uncut location_uncut location_last, lines_append_lineFeed]

/-- What may follow a written diagnostic: nothing, or a blank line. -/
inductive Separated : List Char → Prop where
  | last : Separated []
  | more (rest : List Char) : Separated ('\n' :: rest)

theorem Separated.head_eq_nil (sep : Separated rest) {l : List Char}
    (h : (lines rest).head? = some l) : l = [] := by
  cases sep with
  | last => simp at h
  | more rest =>
    rw [lines_cons_lineFeed] at h
    exact (Option.some.inj h).symm

/-- The help ends the body above it and is passed over itself. -/
theorem ofLines_helpText (sep : Separated rest)
    (helps : ∀ h, d.help = some h → '\n' ∉ h.toList) :
    (∀ l, (lines (helpText d ++ rest)).head? = some l → isBody l = false) ∧
      ofLines (lines (helpText d ++ rest)) = ofLines (lines rest) := by
  cases help : d.help with
  | none =>
    have written : helpText d ++ rest = rest := by simp only [helpText, help, List.nil_append]
    rw [written]
    refine ⟨fun l hl => ?_, rfl⟩
    rw [sep.head_eq_nil hl]
    rfl
  | some h =>
    have uncut : '\n' ∉ 'h' :: ("elp: ".toList ++ h.toList) := by simp [helps h help]
    have written : helpText d ++ rest = 'h' :: ("elp: ".toList ++ h.toList) ++ '\n' :: rest := by
      simp [helpText, help]
    have kept : dropCarriageReturn ('h' :: ("elp: ".toList ++ h.toList)) =
        'h' :: dropCarriageReturn ("elp: ".toList ++ h.toList) :=
      dropCarriageReturn_append_cons (a := []) (by decide)
    rw [written, lines_append_lineFeed, pieces_of_not_mem uncut, List.map_singleton,
      List.singleton_append, kept]
    constructor
    · intro l hl
      rw [← Option.some.inj hl]
      rfl
    · refine ofLines_cons_of_not_location fun l hl => ?_
      rw [sep.head_eq_nil hl]
      rfl

theorem trimStart_cons_space (l : List Char) : trimStart (' ' :: l) = trimStart l :=
  List.dropWhile_cons_of_pos isBlank_space

/-- A written diagnostic is read first, whatever is separated from it. -/
theorem ofLines_render_append (wf : WellFormed d) (sep : Separated rest)
    (helps : ∀ h, d.help = some h → '\n' ∉ h.toList) :
    ofLines (lines ((render d).toList ++ rest)) = reread d :: ofLines (lines rest) := by
  obtain ⟨closed, skipped⟩ := ofLines_helpText sep helps
  have header : header? (Header.text ⟨d.code.toList, d.title.toList⟩) =
      some ⟨d.code.toList, d.title.toList⟩ :=
    header?_eq_some_iff.mpr ⟨[], ⟨wf.code, rfl⟩, fun _ _ _ => Nat.zero_le _⟩
  have title : trim d.title.toList = d.title.toList := trim_of_trimmed wf.title_trimmed
  have titled : trim d.title.toList ≠ [] := by
    rw [title]
    exact wf.title_ne_nil
  have loc : isLocation (' ' :: d.location.toList) = true := by
    rw [isLocation, trimStart_cons_space]
    exact wf.location
  have location : trim (' ' :: d.location.toList) = d.location.toList := by
    rw [trim, trimStart_cons_space]
    exact trim_of_trimmed wf.location_trimmed
  have bodies : ∀ l ∈ (pieces d.context.toList).map dropCarriageReturn, isBody l = true :=
    List.forall_mem_map.mpr fun l hl => isBody_dropCarriageReturn (wf.body l hl)
  have context : Trimmed (joinLines ((pieces d.context.toList).map dropCarriageReturn)) :=
    wf.context_trimmed.joinLines_map_dropCarriageReturn fun l hl => by
      rintro rfl
      exact Bool.false_ne_true (wf.body [] hl)
  have nonempty : (pieces d.context.toList).map dropCarriageReturn ≠ [] := by
    simp [pieces_ne_nil]
  have opening : Opening (Header.text ⟨d.code.toList, d.title.toList⟩) (' ' :: d.location.toList)
      ⟨d.code.toList, d.title.toList⟩ := ⟨header, titled, loc⟩
  rw [lines_render_append wf, opening.ofLines_block bodies nonempty closed, skipped]
  simp only [ofParts, title, location, trim_of_trimmed context, String.ofList_toList]
  rfl

/-- Diagnostics of the form are all read again, in their order. -/
theorem extract_renderAll (all : ∀ d ∈ ds, WellFormed d)
    (helps : ∀ d ∈ ds, ∀ h, d.help = some h → '\n' ∉ h.toList) :
    extract (renderAll ds) = ds.map reread := by
  induction ds with
  | nil => simp [extract, renderAll, ofLines]
  | cons d ds ih =>
    have wf : WellFormed d := all d List.mem_cons_self
    have help := helps d List.mem_cons_self
    have below := ih (fun e he => all e (List.mem_cons_of_mem d he))
      (fun e he => helps e (List.mem_cons_of_mem d he))
    cases ds with
    | nil =>
      have step := ofLines_render_append wf .last help
      rw [List.append_nil] at step
      simpa [extract, renderAll, ofLines] using step
    | cons e ds =>
      have written : (renderAll (d :: e :: ds)).toList =
          (render d).toList ++ '\n' :: (renderAll (e :: ds)).toList := by
        simp [renderAll]
      rw [extract] at below
      rw [extract, written, ofLines_render_append wf (.more _) help, lines_cons_lineFeed,
        ofLines_cons_nil, below]
      rfl

/-- Only a carriage return at the end of a context line is lost besides the help. -/
theorem reread_eq_withoutHelp_iff (wf : WellFormed d) : reread d = withoutHelp d ↔ Canonical d := by
  have context : reread d = withoutHelp d ↔
      joinLines ((pieces d.context.toList).map dropCarriageReturn) = d.context.toList := by
    constructor
    · intro same
      have contexts := congrArg (fun e => e.context.toList) same
      simpa [reread, withoutHelp] using contexts
    · intro same
      rw [reread, same, String.ofList_toList, withoutHelp]
  rw [context, joinLines_map_dropCarriageReturn_eq_iff]
  exact ⟨fun no_return => ⟨wf, no_return⟩, fun canonical => canonical.no_return⟩

/-- Diagnostics with a help of one line, if any, are read as they were written, the help apart,
exactly when all of them are canonical. -/
theorem extract_renderAll_eq_iff (ds : List Diagnostic)
    (helps : ∀ d ∈ ds, ∀ h, d.help = some h → '\n' ∉ h.toList) :
    extract (renderAll ds) = ds.map withoutHelp ↔ ∀ d ∈ ds, Canonical d := by
  constructor
  · intro same
    have all : ∀ d ∈ ds, WellFormed d := by
      intro d hd
      have mem : withoutHelp d ∈ extract (renderAll ds) := by
        rw [same]
        exact List.mem_map_of_mem hd
      exact (wellFormed_of_mem_extract mem).of_withoutHelp
    rw [extract_renderAll all helps, List.map_inj_left] at same
    exact fun d hd => (reread_eq_withoutHelp_iff (all d hd)).mp (same d hd)
  · intro canonical
    rw [extract_renderAll (fun d hd => (canonical d hd).toWellFormed) helps, List.map_inj_left]
    exact fun d hd =>
      (reread_eq_withoutHelp_iff (canonical d hd).toWellFormed).mpr (canonical d hd)

/-- Two diagnostics, the first of them with a help that looks like a header. -/
def pair : List Diagnostic :=
  [⟨"E0308", "mismatched", "--> a:1:14", "1 | x\n  = y", some "error[E1]: z"⟩,
    ⟨"E0425", "cannot find", "--> b:2:1", "|", none⟩]

theorem extract_renderAll_pair :
    (∀ d ∈ pair, ∀ h, d.help = some h → '\n' ∉ h.toList) ∧
      extract (renderAll pair) = pair.map withoutHelp ∧ ∀ d ∈ pair, Canonical d := by
  have helps : ∀ d ∈ pair, ∀ h, d.help = some h → '\n' ∉ h.toList := by simp [pair]
  have same : extract (renderAll pair) = pair.map withoutHelp := by decide +kernel
  exact ⟨helps, same, (extract_renderAll_eq_iff pair helps).mp same⟩

end LintRepair.Diagnostic
