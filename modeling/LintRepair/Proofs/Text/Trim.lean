import LintRepair.Text.Trim
import Mathlib.Data.List.DropRight
import Mathlib.Data.List.Infix

/-!
What trimming takes off a text and what it leaves. White space is cut from both ends up to the
first and the last other character, so a character in between shields everything inside it.
-/
namespace LintRepair.Text

/-- No white space at either end. -/
structure Trimmed (cs : List Char) : Prop where
  first : ∀ c, cs.head? = some c → isBlank c = false
  last : ∀ c, cs.getLast? = some c → isBlank c = false

variable {a b cs : List Char} {c : Char}

section Runs

variable {α : Type} {p : α → Bool} {x y : List α} {d : α}

/-- A run of a class does not go on into what starts outside it. -/
theorem takeWhile_append_of_head? (stop : ∀ c, y.head? = some c → p c = false) (x : List α) :
    (x ++ y).takeWhile p = x.takeWhile p := by
  induction x with
  | nil => cases y <;> simp_all
  | cons c x ih => by_cases hc : p c = true <;> simp [hc, ih]

theorem dropWhile_append_of_head? (stop : ∀ c, y.head? = some c → p c = false) (x : List α) :
    (x ++ y).dropWhile p = x.dropWhile p ++ y := by
  induction x with
  | nil => cases y <;> simp_all
  | cons c x ih => by_cases hc : p c = true <;> simp [hc, ih]

/-- A run of a class ends where the first character outside it stands. -/
theorem takeWhile_append_cons (hx : ∀ c ∈ x, p c = true) (hd : p d = false) :
    (x ++ d :: y).takeWhile p = x := by
  rw [List.takeWhile_append_of_pos hx, List.takeWhile_cons_of_neg (by simp [hd]), List.append_nil]

theorem dropWhile_append_cons (hx : ∀ c ∈ x, p c = true) (hd : p d = false) :
    (x ++ d :: y).dropWhile p = d :: y := by
  rw [List.dropWhile_append_of_pos hx, List.dropWhile_cons_of_neg (by simp [hd])]

end Runs

theorem allBlank_iff : allBlank cs = true ↔ ∀ c ∈ cs, isBlank c = true := List.all_eq_true

theorem allBlank_nil : allBlank [] = true := rfl

theorem allBlank_append : allBlank (a ++ b) = true ↔ allBlank a = true ∧ allBlank b = true := by
  simp [allBlank]

theorem allBlank_of_subset (sub : ∀ c ∈ a, c ∈ b) (blank : allBlank b = true) :
    allBlank a = true := allBlank_iff.mpr fun c hc => allBlank_iff.mp blank c (sub c hc)

theorem dropEnd_eq_rdropWhile (p : Char → Bool) (cs : List Char) :
    dropEnd p cs = cs.rdropWhile p := rfl

theorem trimStart_append_of_blank (h : allBlank a = true) :
    trimStart (a ++ cs) = trimStart cs :=
  List.dropWhile_append_of_pos (allBlank_iff.mp h)

theorem trimStart_cons_of_neg (h : isBlank c = false) : trimStart (c :: cs) = c :: cs :=
  List.dropWhile_cons_of_neg (by simp [h])

theorem not_allBlank_cons (h : isBlank c = false) : allBlank (c :: cs) = false := by
  simp [allBlank, h]

/-- Behind a text that is not blank nothing is cut from the start. -/
theorem trimStart_append_of_not_allBlank (h : allBlank a = false) :
    trimStart (a ++ b) = trimStart a ++ b := by
  have ne : ¬ (a.dropWhile isBlank).isEmpty = true := by
    rw [List.isEmpty_iff, List.dropWhile_eq_nil_iff, ← allBlank_iff, h]
    exact Bool.false_ne_true
  rw [trimStart, List.dropWhile_append, if_neg ne]
  rfl

theorem getLast?_trimStart (h : allBlank a = false) : (trimStart a).getLast? = a.getLast? := by
  have cut : a.takeWhile isBlank ++ trimStart a = a := List.takeWhile_append_dropWhile
  have ne : trimStart a ≠ [] := by
    intro none
    have all := List.dropWhile_eq_nil_iff.mp none
    rw [← allBlank_iff, h] at all
    exact Bool.false_ne_true all
  rw [← List.getLast?_append_of_ne_nil (a.takeWhile isBlank) ne, cut]

/-- Before a text that is not blank nothing is cut from the end. -/
theorem trimEnd_append_of_not_allBlank (h : allBlank b = false) :
    trimEnd (a ++ b) = a ++ trimEnd b := by
  have hr : allBlank b.reverse = false := by rw [allBlank, List.all_reverse, ← allBlank, h]
  have cut := trimStart_append_of_not_allBlank (b := a.reverse) hr
  rw [trimStart, ← List.reverse_append] at cut
  rw [trimEnd, dropEnd, cut, List.reverse_append, List.reverse_reverse]
  rfl

theorem trimEnd_cons_of_neg (h : isBlank c = false) : trimEnd (c :: cs) = c :: trimEnd cs := by
  have stop : [c].dropWhile isBlank = [c] := List.dropWhile_cons_of_neg (by simp [h])
  rw [trimEnd, trimEnd, dropEnd, dropEnd, List.reverse_cons, List.dropWhile_append, stop]
  split
  next none => simp [List.isEmpty_iff.mp none]
  next => simp

/-- What stands before a character that is not white space is out of reach from the end. -/
theorem trimEnd_append_cons (h : isBlank c = false) :
    trimEnd (a ++ c :: b) = a ++ c :: trimEnd b := by
  rw [trimEnd_append_of_not_allBlank (not_allBlank_cons h), trimEnd_cons_of_neg h]

/-- A text that has more than white space has a first such character. -/
theorem exists_first_of_not_allBlank (h : allBlank cs = false) :
    ∃ a c b, cs = a ++ c :: b ∧ allBlank a = true ∧ isBlank c = false := by
  have cut : cs.takeWhile isBlank ++ trimStart cs = cs := List.takeWhile_append_dropWhile
  cases ht : trimStart cs with
  | nil =>
    have := allBlank_iff.mpr (List.dropWhile_eq_nil_iff.mp ht)
    simp [h] at this
  | cons c b =>
    refine ⟨cs.takeWhile isBlank, c, b, by rw [← ht, cut], List.all_takeWhile, ?_⟩
    have := List.head?_dropWhile_not isBlank cs
    rw [trimStart] at ht
    simpa [ht] using this

theorem trim_of_allBlank (h : allBlank cs = true) : trim cs = [] := by
  have : trimStart cs = [] := List.dropWhile_eq_nil_iff.mpr (allBlank_iff.mp h)
  rw [trim, this]
  rfl

theorem trim_append_cons (ha : allBlank a = true) (h : isBlank c = false) :
    trim (a ++ c :: b) = c :: trimEnd b := by
  rw [trim, trimStart_append_of_blank ha, trimStart_cons_of_neg h, trimEnd_cons_of_neg h]

theorem trim_eq_nil_iff : trim cs = [] ↔ allBlank cs = true := by
  refine ⟨fun h => ?_, trim_of_allBlank⟩
  by_contra hb
  obtain ⟨a, c, b, rfl, ha, hc⟩ := exists_first_of_not_allBlank (Bool.eq_false_iff.mpr hb)
  simp [trim_append_cons ha hc] at h

theorem trim_ne_nil_iff : trim cs ≠ [] ↔ allBlank cs = false := by
  rw [ne_eq, trim_eq_nil_iff, Bool.not_eq_true]

theorem isBlank_last_trimEnd (h : (trimEnd cs).getLast? = some c) : isBlank c = false := by
  have := List.head?_dropWhile_not isBlank cs.reverse
  rw [trimEnd, dropEnd, List.getLast?_reverse] at h
  simpa [h] using this

theorem trimmed_trim (cs : List Char) : Trimmed (trim cs) where
  first d hd := by
    by_cases hb : allBlank cs = true
    · simp [trim_of_allBlank hb] at hd
    · obtain ⟨a, c, b, rfl, ha, hc⟩ := exists_first_of_not_allBlank (Bool.eq_false_iff.mpr hb)
      rw [trim_append_cons ha hc] at hd
      simpa [← Option.some.inj hd] using hc
  last _ hd := isBlank_last_trimEnd hd

theorem trimStart_of_trimmed (h : Trimmed cs) : trimStart cs = cs := by
  cases cs with
  | nil => rfl
  | cons c cs => exact trimStart_cons_of_neg (h.first c rfl)

theorem trimEnd_of_trimmed (h : Trimmed cs) : trimEnd cs = cs := by
  rw [trimEnd, dropEnd_eq_rdropWhile, List.rdropWhile_eq_self_iff]
  intro ne
  simp [h.last _ (List.getLast?_eq_some_getLast ne)]

theorem trim_of_trimmed (h : Trimmed cs) : trim cs = cs := by
  rw [trim, trimStart_of_trimmed h, trimEnd_of_trimmed h]

theorem allBlank_trim (cs : List Char) : allBlank (trim cs) = allBlank cs := by
  rw [Bool.eq_iff_iff, ← trim_eq_nil_iff, ← trim_eq_nil_iff, trim_of_trimmed (trimmed_trim cs)]

/-- White space around a trimmed text is what trimming takes off. -/
theorem trim_append_append (ha : allBlank a = true) (hb : allBlank b = true) (h : Trimmed cs) :
    trim (a ++ cs ++ b) = cs := by
  have : allBlank b.reverse = true := by simpa [allBlank] using hb
  rw [List.append_assoc, trim, trimStart_append_of_blank ha]
  cases cs with
  | nil => simpa [trim] using trim_of_allBlank hb
  | cons c cs =>
    rw [List.cons_append, trimStart_cons_of_neg (h.first c rfl), ← List.cons_append, trimEnd,
      dropEnd, List.reverse_append, List.dropWhile_append_of_pos (allBlank_iff.mp this)]
    exact trimEnd_of_trimmed h

theorem exists_eq_append_trim (cs : List Char) :
    ∃ a b, allBlank a = true ∧ allBlank b = true ∧ cs = a ++ trim cs ++ b := by
  refine ⟨cs.takeWhile isBlank, (trimStart cs).rtakeWhile isBlank, List.all_takeWhile,
    allBlank_iff.mpr fun _ => List.mem_rtakeWhile_imp, ?_⟩
  rw [trim, trimEnd, dropEnd_eq_rdropWhile, List.append_assoc, List.rdropWhile_append_rtakeWhile]
  exact List.takeWhile_append_dropWhile.symm

theorem trim_isInfix (cs : List Char) : trim cs <:+: cs := by
  obtain ⟨a, b, -, -, whole⟩ := exists_eq_append_trim cs
  exact ⟨a, b, whole.symm⟩

theorem mem_of_mem_trim (h : c ∈ trim cs) : c ∈ cs := (trim_isInfix cs).mem h

theorem trimEnd_isPrefix (cs : List Char) : trimEnd cs <+: cs := List.rdropWhile_prefix isBlank cs

/-- White space at the end does not matter to what is left before it. -/
theorem trimEnd_append_of_blank (hb : allBlank b = true) : trimEnd (a ++ b) = trimEnd a := by
  have gone : ∀ c ∈ b.reverse, isBlank c = true := by
    intro c hc
    exact allBlank_iff.mp hb c (List.mem_reverse.mp hc)
  rw [trimEnd, trimEnd, dropEnd, dropEnd, List.reverse_append, List.dropWhile_append_of_pos gone]

theorem trimEnd_append_isPrefix (a b : List Char) : trimEnd (a ++ b) <+: a ++ trimEnd b := by
  by_cases hb : allBlank b = true
  · rw [trimEnd_append_of_blank hb]
    exact (trimEnd_isPrefix a).trans (List.prefix_append a _)
  · rw [trimEnd_append_of_not_allBlank (Bool.eq_false_iff.mpr hb)]

theorem trim_append_of_blank (hb : allBlank b = true) : trim (a ++ b) = trim a := by
  by_cases ha : allBlank a = true
  · rw [trim_of_allBlank ha, trim_of_allBlank (allBlank_append.mpr ⟨ha, hb⟩)]
  · rw [trim, trimStart_append_of_not_allBlank (Bool.eq_false_iff.mpr ha),
      trimEnd_append_of_blank hb, trim]

theorem trim_trimEnd (cs : List Char) : trim (trimEnd cs) = trim cs := by
  have whole : trimEnd cs ++ cs.rtakeWhile isBlank = cs := List.rdropWhile_append_rtakeWhile
  have blank : allBlank (cs.rtakeWhile isBlank) = true :=
    allBlank_iff.mpr fun _ => List.mem_rtakeWhile_imp
  conv_rhs => rw [← whole, trim_append_of_blank blank]

/-- What trimming leaves of a beginning is a beginning of what it leaves of the whole. -/
theorem trim_prefix_trim (h : a <+: b) : trim a <+: trim b := by
  obtain ⟨rest, rfl⟩ := h
  by_cases ha : allBlank a = true
  · rw [trim_of_allBlank ha]
    exact List.nil_prefix
  · rw [trim, trim, trimStart_append_of_not_allBlank (Bool.eq_false_iff.mpr ha)]
    by_cases hr : allBlank rest = true
    · rw [trimEnd_append_of_blank hr]
    · rw [trimEnd_append_of_not_allBlank (Bool.eq_false_iff.mpr hr)]
      exact (trimEnd_isPrefix _).trans (List.prefix_append _ _)

theorem trim_prefix_of_trimEnd (h : trimEnd a <+: b) : trim a <+: trim b := by
  rw [← trim_trimEnd]
  exact trim_prefix_trim h

end LintRepair.Text
