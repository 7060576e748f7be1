import LintRepair.Prompt
import LintRepair.Proofs.Diagnostic.Headerless
import LintRepair.Proofs.Diagnostic.RoundTrip

/-!
The diagnostics in a prompt. They stand there in the layout of a report, and all text around them is
passed over when the prompt is read as a report, so it gives back the diagnostics it was made of.
-/
namespace LintRepair.RepairRequest
open Text Diagnostic

variable {es : List Explanation} {ds : List Diagnostic} (r : RepairRequest)

def firstLine : List Char := "<source path=\"".toList ++ (r.path.toList ++ "\">".toList)

/-- From the source to the line above the diagnostics. -/
def sourceText : List Char :=
  "```rust\n".toList ++ (trim r.source.toList ++ ("\n```\n</source>\n".toList ++
    ("\nFix this Rust code that has the following compiler errors:\n\n".toList ++
      ("<diagnostics count=\"".toList ++
        ((toString r.diagnostics.length).toList ++ "\">\n".toList)))))

/-- From the line below the diagnostics to the rule on the answer. -/
def ruleText : List Char :=
  "</diagnostics>".toList ++ (r.explanationsSection.toList ++ ("\n\n".toList ++
    ("Requirements:\n- Fix all errors\n- Follow basic Rust idioms\n".toList ++
      "- Focus on simplicity over abstraction\n\n".toList)))

def answerLine : List Char :=
  "Return the complete corrected contents of `".toList ++
    (r.path.toList ++ "` in a single ```rust code block.".toList)

def lastLine : List Char :=
  "Keep comments on the changes you made brief and inside the code.".toList

/-- Diagnostics, each with a blank line below. -/
def reportText (ds : List Diagnostic) : List Char := ds.flatMap fun d => d.render.toList ++ ['\n']

theorem prompt_eq : r.prompt =
    "<source path=\"" ++ r.path ++ "\">\n```rust\n" ++ trimmed r.source ++ "\n```\n</source>\n" ++
      "\nFix this Rust code that has the following compiler errors:\n\n" ++
      ("<diagnostics count=\"" ++ toString r.diagnostics.length ++ "\">\n" ++
        String.join (r.diagnostics.map fun d => d.render ++ "\n") ++ "</diagnostics>") ++
      r.explanationsSection ++ "\n\n" ++
      ("Requirements:\n- Fix all errors\n- Follow basic Rust idioms\n" ++
        "- Focus on simplicity over abstraction\n\n" ++
        "Return the complete corrected contents of `" ++ r.path ++
        "` in a single ```rust code block.\n" ++
        "Keep comments on the changes you made brief and inside the code.") := rfl

theorem toList_join (ds : List Diagnostic) :
    (String.join (ds.map fun d => d.render ++ "\n")).toList = reportText ds := by
  induction ds with
  | nil => rfl
  | cons d ds ih =>
    rw [List.map_cons, String.join_cons, String.toList_append, String.toList_append, ih]
    rfl

/-- A prompt by the lines that the path stands in, the diagnostics and the text between. -/
theorem toList_prompt : r.prompt.toList =
    r.firstLine ++ '\n' :: (r.sourceText ++ (reportText r.diagnostics ++
      (r.ruleText ++ (r.answerLine ++ '\n' :: lastLine)))) := by
  have first : "\">\n```rust\n".toList = "\">".toList ++ '\n' :: "```rust\n".toList := by simp
  have answer : "` in a single ```rust code block.\n".toList =
      "` in a single ```rust code block.".toList ++ ['\n'] := by simp
  rw [prompt_eq]
  delta firstLine sourceText ruleText answerLine lastLine
  simp only [String.toList_append, toList_join, trimmed, String.toList_ofList]
  rw [first, answer]
  simp only [List.append_assoc, List.cons_append, List.nil_append]

theorem explanationSection_eq (e : Explanation) : explanationSection e =
    "<explanation code=\"" ++ e.code ++ "\">\n" ++ trimmed e.text ++ "\n</explanation>\n" := rfl

theorem explanationsSection_eq (h : r.explanations ≠ []) : r.explanationsSection =
    "\n\n<explanations>\n" ++ String.join (r.explanations.map explanationSection) ++
      "</explanations>" := by
  obtain ⟨e, es, some⟩ := List.exists_cons_of_ne_nil h
  rw [explanationsSection, some]

/-- Neither the code nor the text of an explanation has a header. -/
def IsPlain (e : Explanation) : Prop :=
  header? e.code.toList = none ∧ header? e.text.toList = none

variable {r}

theorem header?_explanationSection {e : Explanation} (plain : IsPlain e) :
    header? (explanationSection e).toList = none := by
  rw [explanationSection_eq]
  simp only [String.toList_append, trimmed, String.toList_ofList, List.append_assoc]
  apply header?_append_of_plain (c := '"') (by simp) (by decide) (by simp)
  apply header?_append_of_head (c := '"') (by rfl) (by decide) plain.1
  apply header?_append_of_plain (c := '\n') (by simp) (by decide) (by simp)
  apply header?_append_of_head (c := '\n') (by simp) (by decide)
  · exact header?_of_isInfix (trim_isInfix _) plain.2
  · exact header?_of_not_mem (by simp)

theorem getLast?_explanationSection (e : Explanation) :
    (explanationSection e).toList.getLast? = some '\n' := by
  rw [explanationSection_eq, String.toList_append, List.getLast?_append_of_ne_nil _ (by decide)]
  decide

theorem header?_explanationSections (plain : ∀ e ∈ es, IsPlain e) :
    header? (String.join (es.map explanationSection)).toList = none := by
  induction es with
  | nil => rfl
  | cons e es ih =>
    rw [List.forall_mem_cons] at plain
    rw [List.map_cons, String.join_cons, String.toList_append]
    exact header?_append_of_last (getLast?_explanationSection e) (by decide)
      (header?_explanationSection plain.1) (ih plain.2)

theorem header?_explanationsSection (plain : ∀ e ∈ r.explanations, IsPlain e) :
    header? r.explanationsSection.toList = none := by
  by_cases none : r.explanations = []
  · rw [explanationsSection, none]
    rfl
  · rw [explanationsSection_eq r none, String.toList_append, String.toList_append]
    apply header?_append_of_head (c := '<') (by simp) (by decide) _ (header?_of_not_mem (by simp))
    apply header?_append_of_plain (c := '\n') (by simp) (by decide) (by simp)
    exact header?_explanationSections plain

theorem header?_decimal (n : Nat) : header? (toString n).toList = none := by
  apply header?_of_not_mem
  intro bracket
  rw [Nat.toString_eq_ofList_toDigits, String.toList_ofList] at bracket
  have digit : '['.isDigit = true :=
    Nat.isDigit_of_mem_toDigits (by decide) (by decide) bracket
  revert digit
  decide

theorem header?_sourceText (source : header? r.source.toList = none) :
    header? r.sourceText = none := by
  delta sourceText
  apply header?_append_of_plain (c := '\n') (by simp) (by decide) (by simp)
  apply header?_append_of_head (c := '\n') (by rfl) (by decide)
  · exact header?_of_isInfix (trim_isInfix _) source
  apply header?_append_of_plain (c := '\n') (by simp) (by decide) (by simp)
  apply header?_append_of_plain (c := '\n') (by simp) (by decide) (by simp)
  apply header?_append_of_plain (c := '"') (by simp) (by decide) (by simp)
  exact header?_append_of_head (c := '"') (by simp) (by decide) (header?_decimal _)
    (header?_of_not_mem (by simp))

theorem header?_ruleText (plain : ∀ e ∈ r.explanations, IsPlain e) :
    header? r.ruleText = none := by
  delta ruleText
  apply header?_append_of_plain (c := '>') (by simp) (by decide) (by simp)
  apply header?_append_of_head (c := '\n') (by rfl) (by decide) (header?_explanationsSection plain)
  apply header?_append_of_plain (c := '\n') (by simp) (by decide) (by simp)
  apply header?_append_of_plain (c := '\n') (by simp) (by decide) (by simp)
  exact header?_of_not_mem (by simp)

/-- Diagnostics in front of other text are all read, and the reading goes on behind them. -/
theorem ofLines_reportText (canonical : ∀ d ∈ ds, Canonical d)
    (helps : ∀ d ∈ ds, ∀ h, d.help = some h → '\n' ∉ h.toList) (rest : List Char) :
    ofLines (lines (reportText ds ++ rest)) = ds.map withoutHelp ++ ofLines (lines rest) := by
  induction ds with
  | nil => rfl
  | cons d ds ih =>
    obtain ⟨first, others⟩ := List.forall_mem_cons.mp canonical
    obtain ⟨help, more⟩ := List.forall_mem_cons.mp helps
    have written : reportText (d :: ds) ++ rest =
        d.render.toList ++ '\n' :: (reportText ds ++ rest) := by simp [reportText]
    have kept : reread d = withoutHelp d := (reread_eq_withoutHelp_iff first.toWellFormed).mpr first
    rw [written, ofLines_render_append first.toWellFormed (.more _) help, lines_cons_lineFeed,
      ofLines_cons_nil, ih others more, kept]
    rfl

/-- The line of the path is followed by one that is no location line. -/
theorem ofLines_firstLine (path : '\n' ∉ r.path.toList) (rest : List Char) :
    ofLines (lines (r.firstLine ++ '\n' :: ("```rust\n".toList ++ rest))) =
      ofLines (lines ("```rust\n".toList ++ rest)) := by
  have uncut : '\n' ∉ r.firstLine := by
    delta firstLine
    simp [path]
  have last : r.firstLine.getLast? ≠ some '\r' := by
    delta firstLine
    rw [← List.append_assoc, List.getLast?_append_of_ne_nil _ (by decide)]
    decide
  have fence : "```rust\n".toList ++ rest = "```rust".toList ++ '\n' :: rest := by simp
  rw [lines_append_of_uncut uncut last, fence, lines_append_of_uncut (by decide) (by decide)]
  apply ofLines_cons_of_not_location
  rintro l ⟨⟩
  decide

theorem ofLines_answerLine (path : '\n' ∉ r.path.toList) :
    ofLines (lines (r.answerLine ++ '\n' :: lastLine)) = [] := by
  have uncut : '\n' ∉ r.answerLine := by
    delta answerLine
    simp [path]
  have last : r.answerLine.getLast? ≠ some '\r' := by
    delta answerLine
    rw [← List.append_assoc, List.getLast?_append_of_ne_nil _ (by decide)]
    decide
  rw [lines_append_of_uncut uncut last, lines_of_uncut (by decide) (by decide)]
  exact ofLines_of_short le_rfl

theorem getLast?_sourceText : r.sourceText.getLast? = some '\n' := by
  delta sourceText
  simp only [← List.append_assoc]
  rw [List.getLast?_append_of_ne_nil _ (by decide)]
  decide

theorem getLast?_ruleText : r.ruleText.getLast? = some '\n' := by
  delta ruleText
  simp only [← List.append_assoc]
  rw [List.getLast?_append_of_ne_nil _ (by decide)]
  decide

/-- Reading a prompt as a report gives back the diagnostics it was made of, without their help, if
no line of the source or of an explanation has a header in it. The path may have one. -/
theorem extract_prompt (path : '\n' ∉ r.path.toList)
    (source : ∀ l ∈ lines r.source.toList, header? l = none)
    (explanations : ∀ e ∈ r.explanations, (∀ l ∈ lines e.code.toList, header? l = none) ∧
      ∀ l ∈ lines e.text.toList, header? l = none)
    (canonical : ∀ d ∈ r.diagnostics, Canonical d)
    (helps : ∀ d ∈ r.diagnostics, ∀ h, d.help = some h → '\n' ∉ h.toList) :
    extract r.prompt = r.diagnostics.map withoutHelp := by
  have plain : ∀ e ∈ r.explanations, IsPlain e := fun e he =>
    ⟨header?_of_lines (explanations e he).1, header?_of_lines (explanations e he).2⟩
  have opened (rest : List Char) : ofLines (lines (r.firstLine ++ '\n' :: (r.sourceText ++ rest))) =
      ofLines (lines (r.sourceText ++ rest)) := by
    delta sourceText
    rw [List.append_assoc]
    exact ofLines_firstLine path _
  calc extract r.prompt
      = ofLines (lines (r.firstLine ++ '\n' :: (r.sourceText ++ (reportText r.diagnostics ++
          (r.ruleText ++ (r.answerLine ++ '\n' :: lastLine)))))) := by rw [extract, toList_prompt]
    _ = ofLines (lines (reportText r.diagnostics ++
          (r.ruleText ++ (r.answerLine ++ '\n' :: lastLine)))) := by
        rw [opened, ofLines_lines_append_of_ended getLast?_sourceText
          (header?_sourceText (header?_of_lines source))]
    _ = r.diagnostics.map withoutHelp ++
          ofLines (lines (r.ruleText ++ (r.answerLine ++ '\n' :: lastLine))) :=
        ofLines_reportText canonical helps _
    _ = r.diagnostics.map withoutHelp := by
        rw [ofLines_lines_append_of_ended getLast?_ruleText (header?_ruleText plain),
          ofLines_answerLine path, List.append_nil]

/-- The path has a header in it, the texts have lines of a block without one. -/
def crooked : RepairRequest where
  path := "src/error[E1]: .rs"
  source := "fn main() {}\n--> a:1:1\n1 | x\n"
  diagnostics := pair
  explanations := [⟨"E0308", "error[E]: y\n--> b:2:1\n|"⟩]

theorem canonical_pair : ∀ d ∈ pair, Canonical d := by
  have read : extract (renderAll pair) = pair.map withoutHelp := by decide +kernel
  intro d hd
  have mem : withoutHelp d ∈ extract (renderAll pair) := by
    rw [read]
    exact List.mem_map_of_mem hd
  have unreturned : ∀ e ∈ pair, ∀ l ∈ pieces e.context.toList, l.getLast? ≠ some '\r' := by decide
  exact ⟨(wellFormed_of_mem_extract mem).of_withoutHelp, unreturned d hd⟩

theorem extract_prompt_crooked :
    '\n' ∉ crooked.path.toList ∧ (∀ l ∈ lines crooked.source.toList, header? l = none) ∧
      (∀ e ∈ crooked.explanations, (∀ l ∈ lines e.code.toList, header? l = none) ∧
        ∀ l ∈ lines e.text.toList, header? l = none) ∧
      (∀ d ∈ crooked.diagnostics, Canonical d) ∧
      (∀ d ∈ crooked.diagnostics, ∀ h, d.help = some h → '\n' ∉ h.toList) ∧
      extract crooked.prompt = crooked.diagnostics.map withoutHelp := by
  have path : '\n' ∉ crooked.path.toList := by decide
  have source : ∀ l ∈ lines crooked.source.toList, header? l = none := by decide
  have explanations : ∀ e ∈ crooked.explanations, (∀ l ∈ lines e.code.toList, header? l = none) ∧
      ∀ l ∈ lines e.text.toList, header? l = none := by decide
  have helps : ∀ d ∈ crooked.diagnostics, ∀ h, d.help = some h → '\n' ∉ h.toList := by
    simp [crooked, pair]
  exact ⟨path, source, explanations, canonical_pair, helps,
    extract_prompt path source explanations canonical_pair helps⟩

end LintRepair.RepairRequest
