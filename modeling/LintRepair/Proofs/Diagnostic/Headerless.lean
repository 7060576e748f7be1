import LintRepair.Proofs.Diagnostic.Sequence

/-!
Text without a header. A header is told by what stands before its title, and that part of it lies
within one line. So texts without a header make no header when they are written one behind the other
with a line feed or a quotation mark between them, and such a text is passed over as a whole.
-/
namespace LintRepair.Diagnostic
open Text

/-- What a header has before its title. -/
def IsMark (m : List Char) : Prop :=
  ∃ digits, IsNumber digits ∧ m = "error[E".toList ++ (digits ++ "]: ".toList)

variable {a b cs m : List Char} {ls : List (List Char)} {c : Char}

/-- A text has a header exactly if the mark of one stands in it. -/
theorem header?_eq_none_iff : header? cs = none ↔ ∀ m, IsMark m → ¬ m <:+: cs := by
  constructor
  · rintro none m ⟨digits, number, rfl⟩ ⟨before, title, whole⟩
    have stands : Header.Behind ⟨'E' :: digits, title⟩ before cs := by
      refine ⟨⟨digits, number, rfl⟩, ?_⟩
      rw [← whole, Header.text_mk]
      simp
    obtain ⟨h, found⟩ := exists_header?_of_behind stands
    rw [none] at found
    cases found
  · intro unmarked
    by_contra some
    obtain ⟨h, found⟩ := Option.ne_none_iff_exists'.mp some
    obtain ⟨before, ⟨⟨digits, number, code⟩, written⟩, -⟩ := leftmost_of_header? found
    obtain ⟨_, title⟩ := h
    obtain rfl : _ = 'E' :: digits := code
    refine unmarked _ ⟨digits, number, rfl⟩ ⟨before, title, ?_⟩
    rw [written, Header.text_mk]
    simp

theorem header?_of_isInfix (h : a <:+: b) (free : header? b = none) : header? a = none := by
  rw [header?_eq_none_iff] at free ⊢
  intro m mark inside
  exact free m mark (inside.trans h)

theorem header?_of_not_mem (plain : '[' ∉ cs) : header? cs = none := by
  rw [header?_eq_none_iff]
  rintro m ⟨digits, -, rfl⟩ inside
  exact plain (inside.mem (by simp))

/-- A character that no mark holds. -/
def isUnmarked (c : Char) : Bool := !isDigit c && !"error[E]: ".toList.contains c

theorem IsMark.not_mem (mark : IsMark m) (hc : isUnmarked c = true) : c ∉ m := by
  obtain ⟨digits, number, rfl⟩ := mark
  simp only [isUnmarked, Bool.and_eq_true, Bool.not_eq_true', List.contains_eq_mem,
    decide_eq_false_iff_not] at hc
  have digitless : c ∉ digits := by
    intro mem
    rw [number.digits c mem] at hc
    cases hc.1
  simp_all

/-- Texts without a header with such a character between them have none together. -/
theorem header?_append_cons (hc : isUnmarked c = true) (ha : header? a = none)
    (hb : header? b = none) : header? (a ++ c :: b) = none := by
  rw [header?_eq_none_iff] at ha hb ⊢
  intro m mark inside
  rcases isInfix_or_isInfix inside (mark.not_mem hc) with left | right
  · exact ha m mark left
  · exact hb m mark right

theorem header?_append_of_last (last : a.getLast? = some c) (hc : isUnmarked c = true)
    (ha : header? a = none) (hb : header? b = none) : header? (a ++ b) = none := by
  obtain ⟨front, rfl⟩ := List.getLast?_eq_some_iff.mp last
  rw [List.append_assoc, List.singleton_append]
  exact header?_append_cons hc (header?_of_isInfix (List.prefix_append front [c]).isInfix ha) hb

theorem header?_append_of_plain (last : a.getLast? = some c) (hc : isUnmarked c = true)
    (plain : '[' ∉ a) (hb : header? b = none) : header? (a ++ b) = none :=
  header?_append_of_last last hc (header?_of_not_mem plain) hb

theorem header?_append_of_head (first : b.head? = some c) (hc : isUnmarked c = true)
    (ha : header? a = none) (hb : header? b = none) : header? (a ++ b) = none := by
  obtain ⟨rest, rfl⟩ := List.head?_eq_some_iff.mp first
  exact header?_append_cons hc ha (header?_of_isInfix (List.suffix_cons c rest).isInfix hb)

theorem header?_of_dropCarriageReturn (free : header? (dropCarriageReturn cs) = none) :
    header? cs = none := by
  by_cases last : cs.getLast? = some '\r'
  · obtain ⟨front, rfl⟩ := List.getLast?_eq_some_iff.mp last
    rw [dropCarriageReturn_concat] at free
    exact header?_append_cons (by decide) free rfl
  · rwa [dropCarriageReturn_of_ne last] at free

theorem header?_of_mem_linesOfPieces (free : ∀ l ∈ linesOfPieces ls, header? l = none) :
    ∀ l ∈ ls, header? l = none := by
  induction ls with
  | nil => exact nofun
  | cons l ls ih =>
    cases ls with
    | nil =>
      rw [List.forall_mem_singleton]
      by_cases empty : l = []
      · rw [empty]
        rfl
      · simpa [linesOfPieces, empty] using free
    | cons m ls =>
      rw [linesOfPieces, List.forall_mem_cons] at free
      rw [List.forall_mem_cons]
      exact ⟨header?_of_dropCarriageReturn free.1, ih free.2⟩

theorem header?_joinLines (free : ∀ l ∈ ls, header? l = none) : header? (joinLines ls) = none := by
  induction ls with
  | nil => rfl
  | cons l ls ih =>
    rw [List.forall_mem_cons] at free
    cases ls with
    | nil => exact free.1
    | cons m ls => exact header?_append_cons (by decide) free.1 (ih free.2)

/-- A text without a header in any of its lines has none. -/
theorem header?_of_lines (free : ∀ l ∈ lines cs, header? l = none) : header? cs = none := by
  have whole := header?_joinLines (header?_of_mem_linesOfPieces free)
  rwa [← joinLines_pieces cs]

theorem ofLines_append_of_headerless (free : ∀ l ∈ ls, header? l = none)
    (below : List (List Char)) : ofLines (ls ++ below) = ofLines below := by
  induction ls with
  | nil => rfl
  | cons l ls ih =>
    obtain ⟨first, others⟩ := List.forall_mem_cons.mp free
    rw [List.cons_append, ofLines_cons_of_unopened, ih others]
    intro location _ h opening
    rw [opening.header] at first
    cases first

/-- A text without a header is passed over, up to the line feed behind it. -/
theorem ofLines_lines_append (free : header? a = none) (b : List Char) :
    ofLines (lines (a ++ '\n' :: b)) = ofLines (lines b) := by
  rw [lines_append_lineFeed]
  apply ofLines_append_of_headerless
  rw [List.forall_mem_map]
  intro l hl
  have inside : dropCarriageReturn l <:+: a :=
    (dropCarriageReturn_isPrefix l).isInfix.trans (isInfix_of_mem_pieces hl)
  exact header?_of_isInfix inside free

theorem ofLines_lines_append_of_ended (ended : a.getLast? = some '\n') (free : header? a = none)
    (b : List Char) : ofLines (lines (a ++ b)) = ofLines (lines b) := by
  obtain ⟨front, rfl⟩ := List.getLast?_eq_some_iff.mp ended
  rw [List.append_assoc, List.singleton_append]
  exact ofLines_lines_append
    (header?_of_isInfix (List.prefix_append front ['\n']).isInfix free) b

end LintRepair.Diagnostic
