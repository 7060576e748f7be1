import LintRepair.Diagnostic.Line
import LintRepair.Proofs.Text.Lines

/-!
The kinds of line by the parts they are made of: where a header may stand, what a location line
spells, and the beginning that makes a body line. No line is both a location and a body line.
-/
namespace LintRepair.Diagnostic
open Text

/-- Decimal digits, at least one. -/
structure IsNumber (cs : List Char) : Prop where
  ne_nil : cs ≠ []
  digits : ∀ c ∈ cs, isDigit c = true

def IsCode (cs : List Char) : Prop := ∃ digits, IsNumber digits ∧ cs = 'E' :: digits

def Header.text (h : Header) : List Char :=
  "error[".toList ++ h.code ++ "]: ".toList ++ h.title

/-- The line is the text `before` and then the header. -/
structure Header.Behind (h : Header) (before line : List Char) : Prop where
  code : IsCode h.code
  written : line = before ++ h.text

/-- The header stands in the line and none stands further left. -/
def Header.Leftmost (h : Header) (line : List Char) : Prop :=
  ∃ before, h.Behind before line ∧
    ∀ before' h', Header.Behind h' before' line → before.length ≤ before'.length

variable {a b before cs l line rest : List Char} {h h' : Header} {c : Char}

theorem Header.text_eq (h : Header) :
    h.text = "error[".toList ++ h.code ++ "]: ".toList ++ h.title := rfl

theorem Header.text_mk (digits title : List Char) :
    Header.text ⟨'E' :: digits, title⟩ =
      "error[E".toList ++ (digits ++ ("]: ".toList ++ title)) := by
  rw [Header.text_eq]
  simp

theorem behind_of_headerAt? (found : headerAt? cs = some h) : h.Behind [] cs := by
  simp only [headerAt?, Option.bind_eq_bind, Option.bind_eq_some_iff] at found
  obtain ⟨rest, opening, found⟩ := found
  by_cases none : (rest.takeWhile isDigit).isEmpty = true
  · simp [none] at found
  · simp only [none, Bool.false_eq_true, ↓reduceIte, Option.bind_eq_some_iff,
      Option.some.injEq] at found
    obtain ⟨title, closing, rfl⟩ := found
    have ne : rest.takeWhile isDigit ≠ [] := by rwa [List.isEmpty_iff] at none
    have code : IsCode ('E' :: rest.takeWhile isDigit) :=
      ⟨_, ⟨ne, fun c hc => List.mem_takeWhile_imp hc⟩, rfl⟩
    refine ⟨code, ?_⟩
    calc cs = "error[E".toList ++ rest := eq_append_of_after? opening
      _ = "error[E".toList ++ (rest.takeWhile isDigit ++ ("]: ".toList ++ title)) := by
          rw [← eq_append_of_after? closing, List.takeWhile_append_dropWhile]
      _ = [] ++ Header.text ⟨'E' :: rest.takeWhile isDigit, title⟩ := by
          rw [Header.text_mk, List.nil_append]

theorem headerAt?_of_behind (stands : h.Behind [] cs) : headerAt? cs = some h := by
  obtain ⟨⟨digits, ⟨ne, all⟩, hcode⟩, rfl⟩ := stands
  obtain ⟨code, title⟩ := h
  obtain rfl : code = 'E' :: digits := hcode
  have stop : isDigit ']' = false := by decide
  have opening : after? "error[E".toList ([] ++ Header.text ⟨'E' :: digits, title⟩) =
      some (digits ++ ']' :: (": ".toList ++ title)) := by
    rw [List.nil_append, Header.text_mk, after?_append]
    simp
  have closing : after? "]: ".toList (']' :: (": ".toList ++ title)) = some title :=
    after?_eq_some_iff.mpr (by simp)
  simp only [headerAt?, opening, Option.bind_eq_bind, Option.bind_some,
    takeWhile_append_cons all stop, dropWhile_append_cons all stop, List.isEmpty_iff, ne,
    ↓reduceIte, closing]

theorem Header.Behind.cons (stands : h.Behind before line) : h.Behind (c :: before) (c :: line) :=
  ⟨stands.code, by rw [stands.written, List.cons_append]⟩

theorem Header.Behind.of_cons (stands : h.Behind (c :: before) line) :
    ∃ rest, line = c :: rest ∧ h.Behind before rest :=
  ⟨_, by rw [stands.written, List.cons_append], stands.code, rfl⟩

theorem leftmost_of_header? (found : header? line = some h) : h.Leftmost line := by
  induction line with
  | nil => simp [header?] at found
  | cons c cs ih =>
    simp only [header?] at found
    cases here : headerAt? (c :: cs) with
    | some g =>
      rw [here] at found
      obtain rfl : g = h := Option.some.inj found
      exact ⟨[], behind_of_headerAt? here, fun _ _ _ => Nat.zero_le _⟩
    | none =>
      rw [here] at found
      obtain ⟨before, stands, least⟩ := ih found
      refine ⟨c :: before, stands.cons, fun before' h' stands' => ?_⟩
      cases before' with
      | nil => simp [headerAt?_of_behind stands'] at here
      | cons d before' =>
        obtain ⟨rest, hline, stands'⟩ := stands'.of_cons
        obtain ⟨-, rfl⟩ := List.cons.inj hline
        exact Nat.succ_le_succ (least before' h' stands')

/-- A header anywhere in a line is enough for one to be found. -/
theorem exists_header?_of_behind (stands : h.Behind before line) : ∃ g, header? line = some g := by
  induction before generalizing line with
  | nil =>
    have here := headerAt?_of_behind stands
    cases line with
    | nil => simp [headerAt?, after?] at here
    | cons c cs => exact ⟨h, by simp only [header?, here]⟩
  | cons c before ih =>
    obtain ⟨rest, rfl, further⟩ := stands.of_cons
    obtain ⟨g, found⟩ := ih further
    cases here : headerAt? (c :: rest) with
    | some g => exact ⟨g, by simp only [header?, here]⟩
    | none => exact ⟨g, by simp only [header?, here, found]⟩

theorem Header.Leftmost.unique (one : h.Leftmost line) (other : h'.Leftmost line) : h = h' := by
  obtain ⟨before, stands, least⟩ := one
  obtain ⟨before', stands', least'⟩ := other
  have same : before.length = before'.length :=
    Nat.le_antisymm (least before' h' stands') (least' before h stands)
  have texts := (List.append_inj (stands.written.symm.trans stands'.written) same).2
  have here := headerAt?_of_behind ⟨stands.code, (List.nil_append h.text).symm⟩
  have here' := headerAt?_of_behind ⟨stands'.code, (List.nil_append h'.text).symm⟩
  rw [texts, here'] at here
  exact (Option.some.inj here).symm

/-- The header found in a line is its leftmost one. -/
theorem header?_eq_some_iff : header? line = some h ↔ h.Leftmost line := by
  refine ⟨leftmost_of_header?, fun left => ?_⟩
  have ⟨before, stands, _⟩ := left
  obtain ⟨g, found⟩ := exists_header?_of_behind stands
  rw [found, (leftmost_of_header? found).unique left]

theorem isDigit_eq_false_of_isBlank (hb : isBlank c = true) : isDigit c = false := by
  by_contra hd
  simp [isBlank_eq_false_of_isDigit (eq_true_of_ne_false hd)] at hb

theorem IsNumber.reverse (hn : IsNumber cs) : IsNumber cs.reverse :=
  ⟨by simpa using hn.ne_nil, by simpa using hn.digits⟩

theorem isNumber_takeWhile (h : cs.takeWhile isDigit ≠ []) : IsNumber (cs.takeWhile isDigit) :=
  ⟨h, fun _ => List.mem_takeWhile_imp⟩

theorem endsInPosition_iff : endsInPosition cs = true ↔
    ∃ column line rest, IsNumber column ∧ IsNumber line ∧
      cs = column ++ ':' :: (line ++ ':' :: rest) := by
  constructor
  · intro ends
    simp only [endsInPosition] at ends
    split at ends
    next more hmore =>
      split at ends
      next rest hrest =>
        simp only [Bool.and_eq_true, Bool.not_eq_true', List.isEmpty_eq_false_iff] at ends
        refine ⟨_, _, rest, isNumber_takeWhile ends.1, isNumber_takeWhile ends.2, ?_⟩
        rw [← hrest, List.takeWhile_append_dropWhile, ← hmore, List.takeWhile_append_dropWhile]
      next => simp at ends
    next => simp at ends
  · rintro ⟨column, line, rest, ⟨hc, column_digits⟩, ⟨hl, line_digits⟩, rfl⟩
    have stop : isDigit ':' = false := by decide
    simp only [endsInPosition, takeWhile_append_cons column_digits stop,
      dropWhile_append_cons column_digits stop, takeWhile_append_cons line_digits stop,
      dropWhile_append_cons line_digits stop]
    simp [hc, hl]

/-- A location without white space around it: an arrow, white space, any text, a line and a column
number. -/
inductive IsPlace : List Char → Prop where
  | arrow {blank : Char} {text line column : List Char} (hb : isBlank blank = true)
      (hl : IsNumber line) (hc : IsNumber column) :
      IsPlace ("-->".toList ++ blank :: (text ++ ':' :: (line ++ ':' :: column)))

theorem IsNumber.exists_concat (hn : IsNumber cs) : ∃ a d, cs = a ++ [d] ∧ isBlank d = false := by
  obtain ⟨a, d, rfl⟩ := (List.eq_nil_or_concat cs).resolve_left hn.ne_nil
  rw [List.concat_eq_append]
  exact ⟨a, d, rfl, isBlank_eq_false_of_isDigit (hn.digits d (by simp))⟩

theorem IsPlace.trimmed (place : IsPlace cs) : Trimmed cs := by
  obtain ⟨hb, hl, hc⟩ := place
  obtain ⟨a, d, rfl, hd⟩ := hc.exists_concat
  constructor
  · intro c hc
    obtain rfl : '-' = c := by simpa using hc
    decide
  · intro c hc
    obtain rfl : d = c := by simpa [List.getLast?_append, List.getLast?_cons] using hc
    exact hd

theorem trimEnd_append_number {column ending : List Char} (hc : IsNumber column)
    (he : allBlank ending = true) : trimEnd (a ++ column ++ ending) = a ++ column := by
  obtain ⟨front, d, rfl, hd⟩ := hc.exists_concat
  have gone : trimEnd ending = [] :=
    List.rdropWhile_eq_nil_iff.mpr (allBlank_iff.mp he)
  have split : a ++ (front ++ [d]) ++ ending = (a ++ front) ++ d :: ending := by simp
  rw [split, trimEnd_append_cons hd, gone]
  simp

theorem isLocation_of_isPlace {gap ending : List Char} (hg : allBlank gap = true)
    (place : IsPlace cs) (he : allBlank ending = true) :
    isLocation (gap ++ (cs ++ ending)) = true := by
  obtain @⟨blank, text, line, column, hb, hl, hc⟩ := place
  have start : trimStart (gap ++ ("-->".toList ++ blank :: (text ++ ':' :: (line ++ ':' :: column)) ++
      ending)) = "-->".toList ++ blank :: (text ++ ':' :: (line ++ ':' :: column) ++ ending) := by
    rw [trimStart_append_of_blank hg, List.append_assoc]
    exact trimStart_cons_of_neg (by decide)
  have stop : (text ++ ':' :: (line ++ ':' :: column) ++ ending).reverse.dropWhile isBlank =
      column.reverse ++ ':' :: (line.reverse ++ ':' :: text.reverse) := by
    have cut := trimEnd_append_number (a := text ++ ':' :: (line ++ [':'])) hc he
    rw [trimEnd, dropEnd, List.reverse_eq_iff] at cut
    simpa using cut
  have position := endsInPosition_iff.mpr ⟨_, _, text.reverse, hc.reverse, hl.reverse, rfl⟩
  simp only [isLocation, start, after?_append, hb, stop, position, Bool.and_self]

theorem isPlace_of_isLocation (loc : isLocation l = true) :
    ∃ gap cs ending, allBlank gap = true ∧ IsPlace cs ∧ allBlank ending = true ∧
      l = gap ++ (cs ++ ending) := by
  simp only [isLocation] at loc
  split at loc
  next blank rest arrow =>
    simp only [Bool.and_eq_true, endsInPosition_iff] at loc
    obtain ⟨hb, column, line, text, hc, hl, position⟩ := loc
    have numbers : rest.rdropWhile isBlank =
        text.reverse ++ ':' :: (line.reverse ++ ':' :: column.reverse) := by
      rw [List.rdropWhile, position]
      simp
    have place : IsPlace ("-->".toList ++ blank :: rest.rdropWhile isBlank) := by
      rw [numbers]
      exact .arrow hb hl.reverse hc.reverse
    refine ⟨l.takeWhile isBlank, _, rest.rtakeWhile isBlank, List.all_takeWhile, place,
      allBlank_iff.mpr fun _ => List.mem_rtakeWhile_imp, ?_⟩
    calc l = l.takeWhile isBlank ++ trimStart l := List.takeWhile_append_dropWhile.symm
      _ = _ := by
        rw [eq_append_of_after? arrow, List.append_assoc, List.cons_append,
          List.rdropWhile_append_rtakeWhile]
  next => simp at loc

/-- A location line is a location with white space around it. -/
theorem isLocation_iff : isLocation l = true ↔
    ∃ gap cs ending, allBlank gap = true ∧ IsPlace cs ∧ allBlank ending = true ∧
      l = gap ++ (cs ++ ending) := by
  refine ⟨isPlace_of_isLocation, ?_⟩
  rintro ⟨gap, cs, ending, hg, place, he, rfl⟩
  exact isLocation_of_isPlace hg place he

/-- A location line without white space around it is a location. -/
theorem isPlace_of_trimmed (loc : isLocation l = true) (trimmed : Trimmed l) : IsPlace l := by
  obtain ⟨gap, cs, ending, hg, place, he, rfl⟩ := isLocation_iff.mp loc
  have whole := trim_append_append hg he place.trimmed
  rw [List.append_assoc, trim_of_trimmed trimmed] at whole
  rw [whole]
  exact place

theorem IsPlace.arrow_isPrefix (place : IsPlace cs) : "-->".toList <+: cs := by
  obtain ⟨hb, hl, hc⟩ := place
  exact List.prefix_append _ _

theorem IsPlace.exists_getLast?_eq (place : IsPlace cs) :
    ∃ c, cs.getLast? = some c ∧ isDigit c = true := by
  obtain @⟨blank, text, line, column, hb, hl, hc⟩ := place
  obtain ⟨a, d, rfl⟩ := (List.eq_nil_or_concat column).resolve_left hc.ne_nil
  exact ⟨d, by simp [List.getLast?_append, List.getLast?_cons], hc.digits d (by simp)⟩

/-- No digit stands in front of the bar, behind white space or not. -/
theorem dropWhile_isDigit_of_bar {gap : List Char} (hg : allBlank gap = true) :
    (gap ++ '|' :: rest).dropWhile isDigit = gap ++ '|' :: rest := by
  cases gap with
  | nil => exact List.dropWhile_cons_of_neg (by decide)
  | cons c cs =>
    have digitless := isDigit_eq_false_of_isBlank (allBlank_iff.mp hg c List.mem_cons_self)
    exact List.dropWhile_cons_of_neg (by simp [digitless])

theorem isExcerpt_of_bar {gap number between : List Char} (hg : allBlank gap = true)
    (hn : ∀ c ∈ number, isDigit c = true) (hb : allBlank between = true) :
    isExcerpt (gap ++ (number ++ (between ++ '|' :: rest))) = true := by
  have bar : isBlank '|' = false := by decide
  have after : (between ++ '|' :: rest).dropWhile isBlank = '|' :: rest :=
    dropWhile_append_cons (allBlank_iff.mp hb) bar
  have front : (gap ++ (number ++ (between ++ '|' :: rest))).dropWhile isBlank =
      (number ++ (between ++ '|' :: rest)).dropWhile isBlank :=
    List.dropWhile_append_of_pos (allBlank_iff.mp hg)
  cases number with
  | nil =>
    have alone : ('|' :: rest).dropWhile isDigit = '|' :: rest :=
      dropWhile_isDigit_of_bar allBlank_nil
    have still : ('|' :: rest).dropWhile isBlank = '|' :: rest :=
      List.dropWhile_cons_of_neg (by simp [bar])
    rw [List.nil_append] at front ⊢
    simp only [isExcerpt, front, after, alone, still, List.head?_cons, decide_true]
  | cons d ds =>
    have digit := isBlank_eq_false_of_isDigit (hn d List.mem_cons_self)
    have kept : (d :: ds ++ (between ++ '|' :: rest)).dropWhile isBlank =
        d :: ds ++ (between ++ '|' :: rest) :=
      List.dropWhile_cons_of_neg (by simp [digit])
    simp only [isExcerpt, front, kept, List.dropWhile_append_of_pos hn,
      dropWhile_isDigit_of_bar hb, after, List.head?_cons, decide_true]

/-- An excerpt line: white space, perhaps a number, white space and a bar. -/
theorem isExcerpt_iff : isExcerpt l = true ↔
    ∃ gap number between rest, allBlank gap = true ∧ (∀ c ∈ number, isDigit c = true) ∧
      allBlank between = true ∧ l = gap ++ (number ++ (between ++ '|' :: rest)) := by
  constructor
  · intro bar
    simp only [isExcerpt, decide_eq_true_eq, List.head?_eq_some_iff] at bar
    obtain ⟨rest, bar⟩ := bar
    refine ⟨l.takeWhile isBlank, (l.dropWhile isBlank).takeWhile isDigit,
      ((l.dropWhile isBlank).dropWhile isDigit).takeWhile isBlank, rest, List.all_takeWhile,
      fun _ => List.mem_takeWhile_imp, List.all_takeWhile, ?_⟩
    rw [← bar, List.takeWhile_append_dropWhile, List.takeWhile_append_dropWhile,
      List.takeWhile_append_dropWhile]
  · rintro ⟨gap, number, between, rest, hg, hn, hb, rfl⟩
    exact isExcerpt_of_bar hg hn hb

theorem isAnnotation_iff : isAnnotation l = true ↔
    ∃ gap rest, allBlank gap = true ∧ l = gap ++ '=' :: rest := by
  constructor
  · intro sign
    simp only [ isAnnotation, decide_eq_true_eq, List.head?_eq_some_iff] at sign
    obtain ⟨rest, sign⟩ := sign
    refine ⟨l.takeWhile isBlank, rest, List.all_takeWhile, ?_⟩
    rw [← sign, List.takeWhile_append_dropWhile]
  · rintro ⟨gap, rest, hg, rfl⟩
    have sign : (gap ++ '=' :: rest).dropWhile isBlank = '=' :: rest :=
      dropWhile_append_cons (allBlank_iff.mp hg) (by decide)
    simp only [ isAnnotation, sign, List.head?_cons, decide_true]

/-- The signs that make a body line. -/
def isMark (c : Char) : Bool := c = '|' || c = '='

theorem isBlank_eq_false_of_isMark (hc : isMark c = true) : isBlank c = false := by
  simp only [isMark, Bool.or_eq_true, decide_eq_true_eq] at hc
  rcases hc with rfl | rfl <;> decide

/-- A body line is one by its beginning up to a mark, whatever follows the mark. -/
theorem exists_mark_of_isBody (body : isBody l = true) :
    ∃ front mark rest, l = front ++ mark :: rest ∧ isMark mark = true ∧
      ∀ rest', isBody (front ++ mark :: rest') = true := by
  simp only [isBody, Bool.or_eq_true] at body ⊢
  rcases body with excerpt | annotation
  · obtain ⟨gap, number, between, rest, hg, hn, hb, rfl⟩ := isExcerpt_iff.mp excerpt
    refine ⟨gap ++ (number ++ between), '|', rest, by simp, by decide, fun rest' => .inl ?_⟩
    exact isExcerpt_iff.mpr ⟨gap, number, between, rest', hg, hn, hb, by simp⟩
  · obtain ⟨gap, rest, hg, rfl⟩ := isAnnotation_iff.mp annotation
    exact ⟨gap, '=', rest, rfl, by decide, fun rest' =>
      .inr <| isAnnotation_iff.mpr ⟨gap, rest', hg, rfl⟩⟩

theorem isBody_of_isPrefix (body : isBody a = true) (h : a <+: b) : isBody b = true := by
  obtain ⟨front, mark, rest, rfl, -, still⟩ := exists_mark_of_isBody body
  obtain ⟨more, rfl⟩ := h
  rw [List.append_assoc, List.cons_append]
  exact still (rest ++ more)

/-- A character that is no mark makes no body line at its end. -/
theorem isBody_of_concat (body : isBody (l ++ [c]) = true) (hc : isMark c = false) :
    isBody l = true := by
  obtain ⟨front, mark, rest, whole, hm, still⟩ := exists_mark_of_isBody body
  rcases List.eq_nil_or_concat rest with rfl | ⟨rest, d, rfl⟩
  · obtain rfl : c = mark := by simpa using (List.append_inj' whole rfl).2
    rw [hm] at hc
    cases hc
  · have same : l ++ [c] = (front ++ mark :: rest) ++ [d] := by simpa using whole
    rw [(List.append_inj' same rfl).1]
    exact still rest

theorem not_allBlank_of_isBody (body : isBody l = true) : allBlank l = false := by
  obtain ⟨front, mark, rest, rfl, hm, -⟩ := exists_mark_of_isBody body
  rw [allBlank, List.all_append, ← allBlank, ← allBlank,
    not_allBlank_cons (isBlank_eq_false_of_isMark hm), Bool.and_false]

theorem isBody_trimStart (l : List Char) : isBody (trimStart l) = isBody l := by
  simp only [isBody, isExcerpt, isAnnotation, trimStart, List.dropWhile_idempotent]

theorem isBody_trimEnd (body : isBody l = true) : isBody (trimEnd l) = true := by
  obtain ⟨front, mark, rest, rfl, hm, still⟩ := exists_mark_of_isBody body
  rw [trimEnd_append_cons (isBlank_eq_false_of_isMark hm)]
  exact still (trimEnd rest)

theorem isBody_dropCarriageReturn (body : isBody l = true) :
    isBody (dropCarriageReturn l) = true := by
  obtain ⟨front, mark, rest, rfl, hm, still⟩ := exists_mark_of_isBody body
  have ne : mark ≠ '\r' := by
    rintro rfl
    exact absurd hm (by decide)
  rw [dropCarriageReturn_append_cons ne]
  exact still (dropCarriageReturn rest)

/-- A location line starts with an arrow, and no body line does. -/
theorem isBody_eq_false_of_isLocation (loc : isLocation l = true) : isBody l = false := by
  obtain ⟨gap, cs, ending, hg, place, -, rfl⟩ := isLocation_iff.mp loc
  rw [← isBody_trimStart, trimStart_append_of_blank hg]
  obtain ⟨hb, hl, hc⟩ := place
  rfl

/-- Trimming a location line takes off what is around the location. -/
theorem isLocation_trim (loc : isLocation l = true) : isLocation (trim l) = true := by
  obtain ⟨gap, cs, ending, hg, place, he, rfl⟩ := isLocation_iff.mp loc
  rw [← List.append_assoc, trim_append_append hg he place.trimmed, isLocation_iff]
  exact ⟨[], cs, [], allBlank_nil, place, allBlank_nil, by simp⟩

end LintRepair.Diagnostic
