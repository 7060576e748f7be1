import LintRepair.Proofs.Text.Trim
import LintRepair.Text.Lines
import Mathlib.Data.List.ModifyLast

/-!
Cutting a text into lines and writing lines out. A text up to a line feed gives its lines whatever
follows, and lines that are not blank keep their number when what they make up is trimmed.
-/
namespace LintRepair.Text

variable {sep : Char} {a b cs l : List Char} {ls ms : List (List Char)}

theorem not_mem_of_mem_split (h : l ∈ split sep cs) : sep ∉ l := by
  induction cs generalizing l with
  | nil =>
    simp only [split, List.mem_singleton] at h
    simp [h]
  | cons c cs ih =>
    simp only [split] at h
    by_cases hc : c = sep
    · simp only [hc, ↓reduceIte, List.mem_cons] at h
      rcases h with rfl | h
      · exact List.not_mem_nil
      · exact ih h
    · cases hs : split sep cs with
      | nil => exact absurd hs (split_ne_nil sep cs)
      | cons m ms =>
        simp only [hc, ↓reduceIte, hs, List.mem_cons] at h ih
        rcases h with rfl | h
        · simp [Ne.symm hc, ih (.inl rfl)]
        · exact ih (.inr h)

/-- Pieces without the character are the pieces of what they make up. -/
theorem split_join (h : ∀ l ∈ ls, sep ∉ l) (ne : ls ≠ []) : split sep (join sep ls) = ls := by
  induction ls with
  | nil => exact absurd rfl ne
  | cons l ls ih =>
    have hl : sep ∉ l := h l List.mem_cons_self
    cases ls with
    | nil => simp [join, split_of_not_mem hl]
    | cons m ms =>
      have rest := ih (fun x hx => h x (List.mem_cons_of_mem l hx)) (by simp)
      rw [join, split_append_sep, split_of_not_mem hl, rest, List.singleton_append]

theorem join_append (hl : ls ≠ []) (hm : ms ≠ []) :
    join sep (ls ++ ms) = join sep ls ++ sep :: join sep ms := by
  induction ls with
  | nil => exact absurd rfl hl
  | cons l ls ih =>
    cases ls with
    | nil =>
      cases ms with
      | nil => exact absurd rfl hm
      | cons m ms => rfl
    | cons k ks =>
      have rest := ih (by simp)
      simp only [List.cons_append] at rest ⊢
      simp only [join, rest, List.append_assoc, List.cons_append]

theorem join_eq_intercalate (sep : Char) (ls : List (List Char)) :
    join sep ls = [sep].intercalate ls := by
  induction ls with
  | nil => rfl
  | cons l ls ih =>
    cases ls with
    | nil => simp [join]
    | cons m ls =>
      rw [join, ih, List.intercalate_cons_cons, List.append_assoc, List.singleton_append]

theorem pieces_joinLines (h : ∀ l ∈ ls, '\n' ∉ l) (ne : ls ≠ []) : pieces (joinLines ls) = ls :=
  split_join h ne

theorem joinLines_pieces (cs : List Char) : joinLines (pieces cs) = cs := join_split '\n' cs

/-- Texts of several lines, one below the other, are cut into the lines of each. -/
theorem pieces_joinLines_eq_flatMap (ne : ls ≠ []) : pieces (joinLines ls) = ls.flatMap pieces := by
  induction ls with
  | nil => exact absurd rfl ne
  | cons l ls ih =>
    cases ls with
    | nil => simp [joinLines, join]
    | cons m ms =>
      have rest := ih (List.cons_ne_nil m ms)
      rw [List.flatMap_cons, ← rest]
      exact split_append_sep '\n' l _

theorem pieces_ne_nil (cs : List Char) : pieces cs ≠ [] := split_ne_nil '\n' cs

theorem pieces_of_not_mem (h : '\n' ∉ cs) : pieces cs = [cs] := split_of_not_mem h

theorem linesOfPieces_append (h : ms ≠ []) :
    linesOfPieces (ls ++ ms) = ls.map dropCarriageReturn ++ linesOfPieces ms := by
  induction ls with
  | nil => rfl
  | cons l ls ih =>
    obtain ⟨k, ks, hk⟩ : ∃ k ks, ls ++ ms = k :: ks :=
      List.exists_cons_of_ne_nil fun hn => h (List.append_eq_nil_iff.mp hn).2
    rw [List.cons_append, hk, linesOfPieces, ← hk, ih, List.map_cons, List.cons_append]

/-- The lines up to a line feed do not depend on what follows it. -/
theorem lines_append_lineFeed (a b : List Char) :
    lines (a ++ '\n' :: b) = (pieces a).map dropCarriageReturn ++ lines b := by
  rw [lines, pieces, split_append_sep, linesOfPieces_append (split_ne_nil '\n' b)]
  rfl

theorem lines_cons_lineFeed (b : List Char) : lines ('\n' :: b) = [] :: lines b :=
  lines_append_lineFeed [] b

/-- A carriage return is not taken off a line that ends in another character. -/
theorem dropCarriageReturn_of_ne (h : l.getLast? ≠ some '\r') : dropCarriageReturn l = l := if_neg h

theorem dropCarriageReturn_eq_self_iff : dropCarriageReturn l = l ↔ l.getLast? ≠ some '\r' := by
  refine ⟨fun h hr => ?_, dropCarriageReturn_of_ne⟩
  have ne : l ≠ [] := by
    rintro rfl
    simp at hr
  rw [dropCarriageReturn, if_pos hr] at h
  have same_length := congrArg List.length h
  have filled := List.length_pos_iff.mpr ne
  rw [List.length_dropLast] at same_length
  omega

theorem dropCarriageReturn_append_cons {c : Char} (h : c ≠ '\r') :
    dropCarriageReturn (a ++ c :: b) = a ++ c :: dropCarriageReturn b := by
  cases b with
  | nil => simp [dropCarriageReturn, h]
  | cons d b =>
    simp only [dropCarriageReturn, List.getLast?_append, List.getLast?_cons_cons]
    split <;> simp_all

theorem dropCarriageReturn_concat (l : List Char) : dropCarriageReturn (l ++ ['\r']) = l := by
  simp [dropCarriageReturn]

theorem dropCarriageReturn_isPrefix (l : List Char) : dropCarriageReturn l <+: l := by
  rw [dropCarriageReturn]
  split
  · exact List.dropLast_prefix l
  · exact List.prefix_rfl

theorem not_mem_of_mem_linesOfPieces (h : ∀ l ∈ ls, '\n' ∉ l) (hl : l ∈ linesOfPieces ls) :
    '\n' ∉ l := by
  induction ls with
  | nil => simp [linesOfPieces] at hl
  | cons m ls ih =>
    have hm : '\n' ∉ m := h m List.mem_cons_self
    cases ls with
    | nil =>
      by_cases he : m.isEmpty = true
      · simp [linesOfPieces, he] at hl
      · simp only [linesOfPieces, he, Bool.false_eq_true, ↓reduceIte, List.mem_singleton] at hl
        rwa [hl]
    | cons k ks =>
      simp only [linesOfPieces, List.mem_cons] at hl
      rcases hl with rfl | hl
      · exact fun hn => hm ((dropCarriageReturn_isPrefix m).mem hn)
      · exact ih (fun x hx => h x (List.mem_cons_of_mem m hx)) hl

theorem not_mem_of_mem_lines (hl : l ∈ lines cs) : '\n' ∉ l :=
  not_mem_of_mem_linesOfPieces (fun _ => not_mem_of_mem_split) hl

/-- The lines with the white space around all of them gone. -/
def trimOuter (ls : List (List Char)) : List (List Char) :=
  (ls.modifyHead trimStart).modifyLast trimEnd

theorem trimOuter_nil : trimOuter [] = [] := rfl

theorem trimOuter_singleton (l : List Char) : trimOuter [l] = [trim l] :=
  List.modifyLast_concat trimEnd (trimStart l) []

theorem trimOuter_cons_concat (l m : List Char) (ls : List (List Char)) :
    trimOuter (l :: (ls ++ [m])) = trimStart l :: (ls ++ [trimEnd m]) :=
  List.modifyLast_concat trimEnd m (trimStart l :: ls)

/-- Some lines are none, one, or a first and a last with others between. -/
theorem lines_cases {motive : List (List Char) → Prop} (ls : List (List Char)) (nil : motive [])
    (one : ∀ l, motive [l]) (more : ∀ l ms m, motive (l :: (ms ++ [m]))) : motive ls := by
  cases ls with
  | nil => exact nil
  | cons l ls =>
    rcases List.eq_nil_or_concat ls with rfl | ⟨ms, m, rfl⟩
    · exact one l
    · simpa using more l ms m

theorem exists_joinLines_cons (ls : List (List Char)) :
    ∃ b, ∀ l, joinLines (l :: ls) = l ++ b := by
  cases ls with
  | nil => exact ⟨[], fun l => (List.append_nil l).symm⟩
  | cons m ls => exact ⟨'\n' :: joinLines (m :: ls), fun _ => rfl⟩

theorem exists_joinLines_concat (ls : List (List Char)) :
    ∃ a, ∀ l, joinLines (ls ++ [l]) = a ++ l := by
  cases ls with
  | nil => exact ⟨[], fun _ => rfl⟩
  | cons m ls =>
    refine ⟨joinLines (m :: ls) ++ ['\n'], fun l => ?_⟩
    rw [List.append_assoc]
    exact join_append (List.cons_ne_nil m ls) (List.cons_ne_nil l [])

theorem joinLines_isPrefix (ls ms : List (List Char)) : joinLines ls <+: joinLines (ls ++ ms) := by
  by_cases hl : ls = []
  · rw [hl]
    exact List.nil_prefix
  by_cases hm : ms = []
  · rw [hm, List.append_nil]
  · exact ⟨'\n' :: joinLines ms, (join_append hl hm).symm⟩

/-- Taking carriage returns off the pieces of a text changes it if there are any to take. -/
theorem joinLines_map_dropCarriageReturn_eq_iff :
    joinLines ((pieces cs).map dropCarriageReturn) = cs ↔
      ∀ l ∈ pieces cs, l.getLast? ≠ some '\r' := by
  have uncut : ∀ l ∈ (pieces cs).map dropCarriageReturn, '\n' ∉ l :=
    List.forall_mem_map.mpr fun l hl hn =>
      not_mem_of_mem_split hl ((dropCarriageReturn_isPrefix l).mem hn)
  have ne : (pieces cs).map dropCarriageReturn ≠ [] := by simp [pieces_ne_nil]
  simp only [← dropCarriageReturn_eq_self_iff]
  constructor
  · intro same
    have kept := pieces_joinLines uncut ne
    rw [same] at kept
    exact List.map_inj_left.mp (kept.symm.trans (List.map_id _).symm)
  · intro kept
    rw [List.map_congr_left kept, List.map_id', joinLines_pieces]

/-- What holds of every line and outlasts trimming holds of the trimmed lines. -/
theorem forall_mem_trimOuter {P : List Char → Prop} (start : ∀ l, P l → P (trimStart l))
    (close : ∀ l, P l → P (trimEnd l)) (h : ∀ l ∈ ls, P l) : ∀ l ∈ trimOuter ls, P l := by
  induction ls using lines_cases with
  | nil => simp [trimOuter_nil]
  | one l =>
    rw [trimOuter_singleton, List.forall_mem_singleton]
    exact close _ (start l (h l List.mem_cons_self))
  | more l ms m =>
    rw [trimOuter_cons_concat]
    intro x hx
    rcases List.mem_cons.mp hx with rfl | hx
    · exact start l (h l List.mem_cons_self)
    · rcases List.mem_append.mp hx with hx | hx
      · exact h x (by simp [hx])
      · rw [List.mem_singleton.mp hx]
        exact close m (h m (by simp))

theorem trimOuter_ne_nil (ne : ls ≠ []) : trimOuter ls ≠ [] := by
  induction ls using lines_cases with
  | nil => exact absurd rfl ne
  | one l => simp [trimOuter_singleton]
  | more l ms m => simp [trimOuter_cons_concat]

theorem length_trimOuter (ls : List (List Char)) : (trimOuter ls).length = ls.length := by
  induction ls using lines_cases with
  | nil => rfl
  | one l => rfl
  | more l ms m => simp [trimOuter_cons_concat]

/-- The lines between the first and the last are left as they are. -/
theorem getElem?_trimOuter {k : Nat} (behind : 0 < k) (before : k + 1 < ls.length) :
    (trimOuter ls)[k]? = ls[k]? := by
  induction ls using lines_cases with
  | nil => simp at before
  | one l => simp at before
  | more l ms m =>
    obtain ⟨j, rfl⟩ := Nat.exists_eq_add_one.mpr behind
    have inner : j < ms.length := by simpa using before
    rw [trimOuter_cons_concat, List.getElem?_cons_succ, List.getElem?_cons_succ,
      List.getElem?_append_left inner, List.getElem?_append_left inner]

/-- Lines that are not blank are trimmed together by trimming the first and the last of them. -/
theorem trim_joinLines (h : ∀ l ∈ ls, allBlank l = false) :
    trim (joinLines ls) = joinLines (trimOuter ls) := by
  induction ls using lines_cases with
  | nil => rfl
  | one l => rw [trimOuter_singleton, joinLines, joinLines, join, join]
  | more l ms m =>
    have hl : allBlank l = false := h l List.mem_cons_self
    have hm : allBlank m = false := h m (by simp)
    obtain ⟨b, hb⟩ := exists_joinLines_cons (ms ++ [m])
    obtain ⟨a, ha⟩ := exists_joinLines_concat (trimStart l :: ms)
    calc trim (joinLines (l :: (ms ++ [m])))
        = trimEnd (joinLines (trimStart l :: (ms ++ [m]))) := by
          rw [trim, hb, trimStart_append_of_not_allBlank hl, ← hb]
      _ = joinLines (trimStart l :: (ms ++ [trimEnd m])) := by
          rw [← List.cons_append, ha, trimEnd_append_of_not_allBlank hm, ← ha, List.cons_append]
      _ = joinLines (trimOuter (l :: (ms ++ [m]))) := by rw [trimOuter_cons_concat]

theorem Trimmed.getLast?_ne (h : Trimmed cs) : cs.getLast? ≠ some '\r' := by
  intro hr
  have := h.last '\r' hr
  simp [isBlank_carriageReturn] at this

/-- A line that does not end in a carriage return, in front of others. -/
theorem lines_append_of_uncut (uncut : '\n' ∉ a) (last : a.getLast? ≠ some '\r') (b : List Char) :
    lines (a ++ '\n' :: b) = a :: lines b := by
  rw [lines_append_lineFeed, pieces_of_not_mem uncut, List.map_singleton,
    dropCarriageReturn_of_ne last, List.singleton_append]

theorem head?_joinLines (ne : l ≠ []) : (joinLines (l :: ls)).head? = l.head? := by
  obtain ⟨b, hb⟩ := exists_joinLines_cons ls
  rw [hb, List.head?_append_of_ne_nil l ne]

theorem getLast?_joinLines (ne : l ≠ []) : (joinLines (ls ++ [l])).getLast? = l.getLast? := by
  obtain ⟨a, ha⟩ := exists_joinLines_concat ls
  rw [ha, List.getLast?_append_of_ne_nil a ne]

/-- A trimmed text stays trimmed when carriage returns are taken off its lines: the first line
starts and the last one ends in another character. -/
theorem Trimmed.joinLines_map_dropCarriageReturn (h : Trimmed cs)
    (filled : ∀ l ∈ pieces cs, l ≠ []) :
    Trimmed (joinLines ((pieces cs).map dropCarriageReturn)) := by
  have whole := joinLines_pieces cs
  constructor
  · obtain ⟨l, ls, hp⟩ := List.exists_cons_of_ne_nil (pieces_ne_nil cs)
    obtain ⟨c, l, rfl⟩ := List.exists_cons_of_ne_nil (filled l (by simp [hp]))
    rw [hp] at whole ⊢
    have first : cs.head? = some c := by rw [← whole, head?_joinLines (List.cons_ne_nil c l)]; rfl
    have visible : c ≠ '\r' := by
      rintro rfl
      simpa [isBlank_carriageReturn] using h.first '\r' first
    have kept : dropCarriageReturn (c :: l) = c :: dropCarriageReturn l :=
      dropCarriageReturn_append_cons (a := []) visible
    rw [List.map_cons, kept, head?_joinLines (List.cons_ne_nil _ _), List.head?_cons, ← first]
    exact h.first
  · obtain ⟨ls, l, hp⟩ := (List.eq_nil_or_concat (pieces cs)).resolve_left (pieces_ne_nil cs)
    rw [List.concat_eq_append] at hp
    have ne : l ≠ [] := filled l (by simp [hp])
    rw [hp] at whole ⊢
    have last : cs.getLast? = l.getLast? := by rw [← whole, getLast?_joinLines ne]
    have kept : dropCarriageReturn l = l := dropCarriageReturn_of_ne (last ▸ h.getLast?_ne)
    rw [List.map_append, List.map_singleton, kept, getLast?_joinLines ne, ← last]
    exact h.last

/-- A text without a line feed is one line, unless it is empty. -/
theorem lines_of_uncut (uncut : '\n' ∉ l) (ne : l ≠ []) : lines l = [l] := by
  rw [lines, pieces_of_not_mem uncut]
  simp [linesOfPieces, ne]

/-- The last line feed of a text ends lines that stay as they are. What follows goes on with the
rest behind it. -/
theorem exists_lines_append (a : List Char) :
    ∃ ls p, '\n' ∉ p ∧ ∀ b, lines (a ++ b) = ls ++ lines (p ++ b) := by
  by_cases cut : '\n' ∈ a
  · obtain ⟨back, front, reversed, uncut⟩ := List.eq_append_cons_of_mem (List.mem_reverse.mpr cut)
    have whole : a = front.reverse ++ '\n' :: back.reverse := by
      simpa using congrArg List.reverse reversed
    refine ⟨(pieces front.reverse).map dropCarriageReturn, back.reverse, by simpa using uncut, ?_⟩
    intro b
    rw [whole, List.append_assoc, List.cons_append, lines_append_lineFeed]
  · exact ⟨[], a, cut, fun _ => rfl⟩

/-- The first line of a text goes on from the text's beginning. -/
theorem exists_lines_cons (uncut : '\n' ∉ a) (ne : a ≠ []) (b : List Char) :
    ∃ l more, a <+: l ∧
      (lines (a ++ b) = l :: more ∨ lines (a ++ b) = dropCarriageReturn l :: more) := by
  by_cases cut : '\n' ∈ b
  · obtain ⟨x, rest, rfl, hx⟩ := List.eq_append_cons_of_mem cut
    have uncut' : '\n' ∉ a ++ x := by simp [uncut, hx]
    refine ⟨a ++ x, lines rest, List.prefix_append a x, .inr ?_⟩
    rw [← List.append_assoc, lines_append_lineFeed, pieces_of_not_mem uncut', List.map_singleton,
      List.singleton_append]
  · have uncut' : '\n' ∉ a ++ b := by simp [uncut, cut]
    refine ⟨a ++ b, [], List.prefix_append a b, .inl ?_⟩
    exact lines_of_uncut uncut' (by simp [ne])

/-- The carriage return that a line end takes is white space. -/
theorem trimEnd_isPrefix_dropCarriageReturn (h : a <+: l) : trimEnd a <+: dropCarriageReturn l := by
  by_cases last : l.getLast? = some '\r'
  · obtain ⟨front, rfl⟩ := List.getLast?_eq_some_iff.mp last
    rw [dropCarriageReturn_concat]
    rcases List.prefix_concat_iff.mp h with rfl | h
    · rw [trimEnd_append_of_blank (by decide)]
      exact trimEnd_isPrefix front
    · exact (trimEnd_isPrefix a).trans h
  · rw [dropCarriageReturn_of_ne last]
    exact (trimEnd_isPrefix a).trans h

/-- A stretch of a text without a character lies on one side of it. -/
theorem isInfix_or_isInfix {m : List Char} {c : Char} (h : m <:+: a ++ c :: b) (hc : c ∉ m) :
    m <:+: a ∨ m <:+: b := by
  obtain ⟨x, y, whole⟩ := h
  rw [List.append_assoc] at whole
  rcases List.append_eq_append_iff.mp whole with ⟨z, rfl, rest⟩ | ⟨z, rfl, rest⟩
  · rcases List.append_eq_append_iff.mp rest with ⟨w, rfl, -⟩ | ⟨w, rfl, behind⟩
    · exact .inl ⟨x, w, by simp⟩
    · cases w with
      | nil => exact .inl ⟨x, [], by simp⟩
      | cons d w =>
        obtain ⟨rfl, -⟩ := List.cons.inj behind
        simp at hc
  · cases z with
    | nil =>
      cases m with
      | nil => exact .inl List.nil_infix
      | cons d m =>
        obtain ⟨rfl, -⟩ := List.cons.inj rest
        simp at hc
    | cons d z =>
      obtain ⟨-, rfl⟩ := List.cons.inj rest
      exact .inr ⟨z, y, by simp⟩

theorem isInfix_joinLines (h : l ∈ ls) : l <:+: joinLines ls := by
  obtain ⟨before, after, rfl⟩ := List.append_of_mem h
  obtain ⟨a, ha⟩ := exists_joinLines_concat before
  obtain ⟨b, hb⟩ := exists_joinLines_cons after
  have first : l <:+: joinLines (before ++ [l]) := by
    rw [ha]
    exact (List.suffix_append a l).isInfix
  have rest := joinLines_isPrefix (before ++ [l]) after
  rw [List.append_assoc, List.singleton_append] at rest
  exact first.trans rest.isInfix

theorem isInfix_of_mem_pieces (h : l ∈ pieces cs) : l <:+: cs := by
  have inside := isInfix_joinLines h
  rwa [joinLines_pieces] at inside

theorem allBlank_joinLines (ls : List (List Char)) : allBlank (joinLines ls) = ls.all allBlank := by
  induction ls with
  | nil => rfl
  | cons l ls ih =>
    cases ls with
    | nil => simp [joinLines, join]
    | cons m ls =>
      rw [List.all_cons, ← ih, Bool.eq_iff_iff, Bool.and_eq_true]
      have feed : allBlank ('\n' :: joinLines (m :: ls)) = allBlank (joinLines (m :: ls)) := rfl
      rw [← feed]
      exact allBlank_append

theorem allBlank_dropCarriageReturn (l : List Char) :
    allBlank (dropCarriageReturn l) = allBlank l := by
  by_cases last : l.getLast? = some '\r'
  · obtain ⟨front, rfl⟩ := List.getLast?_eq_some_iff.mp last
    rw [dropCarriageReturn_concat, Bool.eq_iff_iff, allBlank_append]
    simp [allBlank, isBlank_carriageReturn]
  · rw [dropCarriageReturn_of_ne last]

theorem all_allBlank_linesOfPieces (ls : List (List Char)) :
    (linesOfPieces ls).all allBlank = ls.all allBlank := by
  induction ls with
  | nil => rfl
  | cons l ls ih =>
    cases ls with
    | nil => cases l <;> simp [linesOfPieces, allBlank]
    | cons m ls =>
      rw [linesOfPieces, List.all_cons, ih, allBlank_dropCarriageReturn]
      rfl

/-- Cutting a text into lines takes only white space off it. -/
theorem all_allBlank_lines (cs : List Char) : (lines cs).all allBlank = allBlank cs := by
  rw [lines, all_allBlank_linesOfPieces, ← allBlank_joinLines, joinLines_pieces]

end LintRepair.Text
