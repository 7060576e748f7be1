import LintRepair.Shell.Field

/-!
Cutting a word into fields loses nothing but separators: the texts of the fields together are those
of the pieces without what the pieces are cut at. What is not to be cut stays in one field.
-/
namespace LintRepair.Shell

variable {separators : List Char} {chunks : List Chunk} {k : Cutting} {c : Char} {quoted : Bool}

def Chunk.kept (separators : List Char) : Chunk → List Char
  | .mark => []
  | .text cs _ .whole => cs
  | .text cs _ .fields => cs.filter fun c => !(c = wordBreak || separators.contains c)
  | .text cs _ .words => cs.filter (· ≠ wordBreak)

def Cutting.text (k : Cutting) : List Char :=
  k.done.reverse.flatMap fieldText ++ fieldText k.current

@[simp] theorem fieldText_nil : fieldText [] = [] := rfl

@[simp] theorem fieldText_char (c : Char) (quoted : Bool) (f : Field) :
    fieldText (.char c quoted :: f) = fieldText f ++ [c] := by
  simp [fieldText, Glyph.text]

@[simp] theorem fieldText_mark (f : Field) : fieldText (.mark :: f) = fieldText f := by
  simp [fieldText, Glyph.text]

theorem fieldText_addText (cs : List Char) (quoted : Bool) (f : Field) :
    fieldText (addText cs quoted f) = fieldText f ++ cs := by
  unfold addText
  induction cs generalizing f with
  | nil => simp
  | cons c cs ih => rw [List.foldl_cons, ih, fieldText_char, List.append_assoc]; rfl

theorem text_close (k : Cutting) (isGap : Bool) :
    ({ k with done := k.current :: k.done, current := [], isGap := isGap } : Cutting).text =
      k.text := by
  simp [Cutting.text]

theorem text_push (k : Cutting) (c : Char) (quoted isGap : Bool) :
    ({ k with isGap := isGap, current := .char c quoted :: k.current } : Cutting).text =
      k.text ++ [c] := by
  simp [Cutting.text]

/-- What a character adds to the fields. Behind a gap nothing is begun yet. -/
theorem fieldChar_spec (separators : List Char) (c : Char) (quoted : Bool)
    (gap : k.isGap = true → k.current = []) :
    (k.fieldChar separators c quoted).text =
      k.text ++ [c].filter (fun c => !(c = wordBreak || separators.contains c)) ∧
    ((k.fieldChar separators c quoted).isGap = true →
      (k.fieldChar separators c quoted).current = []) := by
  rcases separates : (decide (c = wordBreak) || separators.contains c) with _ | _
  · rw [List.filter_cons_of_pos (by rw [separates]; rfl)]
    unfold Cutting.fieldChar
    dsimp only
    rw [separates, Bool.and_false, if_neg Bool.false_ne_true, if_neg Bool.false_ne_true]
    exact ⟨text_push k c quoted false, nofun⟩
  · rw [List.filter_cons_of_neg (by rw [separates]; decide), List.filter_nil, List.append_nil]
    unfold Cutting.fieldChar
    dsimp only
    rw [separates, Bool.and_true, Bool.true_and, if_pos rfl]
    split
    · rename_i isGap
      refine ⟨?_, fun _ => rfl⟩
      simp [Cutting.text, gap isGap]
    split
    · exact ⟨rfl, nofun⟩
    · exact ⟨text_close k _, fun _ => rfl⟩

theorem fieldChars_spec (cs : List Char) (gap : k.isGap = true → k.current = []) :
    (cs.foldl (fun k c => k.fieldChar separators c quoted) k).text =
      k.text ++ cs.filter (fun c => !(c = wordBreak || separators.contains c)) := by
  induction cs generalizing k with
  | nil => simp
  | cons c cs ih =>
    obtain ⟨text, gap'⟩ := fieldChar_spec separators c quoted gap
    rw [List.foldl_cons, ih gap', text, List.append_assoc, ← List.filter_append,
      List.singleton_append]

theorem text_wordChar (k : Cutting) (c : Char) (quoted : Bool) :
    (k.wordChar c quoted).text = k.text ++ [c].filter (· ≠ wordBreak) := by
  unfold Cutting.wordChar
  split
  · rename_i isBreak
    rw [List.filter_cons_of_neg (by simpa using isBreak), List.filter_nil, List.append_nil]
    exact text_close k k.isGap
  · rename_i other
    rw [List.filter_cons_of_pos (by simpa using other)]
    exact text_push k c quoted k.isGap

theorem wordChars_spec (cs : List Char) :
    (cs.foldl (fun k c => k.wordChar c quoted) k).text = k.text ++ cs.filter (· ≠ wordBreak) := by
  induction cs generalizing k with
  | nil => simp
  | cons c cs ih =>
    rw [List.foldl_cons, ih, text_wordChar, List.append_assoc, ← List.filter_append,
      List.singleton_append]

theorem text_add (k : Cutting) (chunk : Chunk) :
    (k.add separators chunk).text = k.text ++ chunk.kept separators := by
  cases chunk with
  | mark => simp [Cutting.add, Cutting.text, Chunk.kept]
  | text cs quoted cut =>
    cases cut with
    | whole => simp [Cutting.add, Cutting.text, Chunk.kept, fieldText_addText]
    | fields =>
      exact fieldChars_spec cs (k := { k with isGap := false }) fun gap =>
        absurd gap Bool.false_ne_true
    | words => exact wordChars_spec cs (k := { k with isGap := false })

/-- The fields hold what is kept of the pieces, in order. -/
theorem text_fieldsOf (separators : List Char) (chunks : List Chunk) :
    (fieldsOf separators chunks).flatMap fieldText = chunks.flatMap (Chunk.kept separators) := by
  have cut (k : Cutting) : (chunks.foldl (Cutting.add separators) k).text =
      k.text ++ chunks.flatMap (Chunk.kept separators) := by
    induction chunks generalizing k with
    | nil => simp
    | cons chunk chunks ih =>
      rw [List.foldl_cons, ih, text_add, List.flatMap_cons, List.append_assoc]
  rw [fieldsOf, ← List.nil_append (chunks.flatMap _)]
  refine Eq.trans ?_ (cut {})
  generalize chunks.foldl (Cutting.add separators) {} = k
  split
  · rename_i last
    simp only [Bool.and_eq_true, List.isEmpty_iff] at last
    simp [Cutting.text, last.1]
  · simp [Cutting.text]

/-- Without a piece that may be cut there is one field at most. -/
theorem length_fieldsOf_le
    (uncut : ∀ cs quoted cut, .text cs quoted cut ∈ chunks → cut = .whole) :
    (fieldsOf separators chunks).length ≤ 1 := by
  have cut (k : Cutting) : (chunks.foldl (Cutting.add separators) k).done = k.done := by
    induction chunks generalizing k with
    | nil => rfl
    | cons chunk chunks ih =>
      rw [List.foldl_cons, ih fun cs quoted cut mem => uncut cs quoted cut (.tail _ mem)]
      cases chunk with
      | mark => rfl
      | text cs quoted cut =>
        obtain rfl := uncut cs quoted cut (.head _)
        rfl
  have none_done : (chunks.foldl (Cutting.add separators) {}).done = [] := cut {}
  unfold fieldsOf
  dsimp only
  rw [none_done, List.length_reverse]
  split <;> simp

end LintRepair.Shell
