import LintRepair.Shell.Field
import Mathlib.Data.List.Infix
import Mathlib.Order.Bounds.Basic

/-!
Which texts fit a pattern, said without the states that the search goes through. What is taken off
the start or the end of a text is the shortest or the longest part that fits, and a quoted text fits
itself alone.
-/
namespace LintRepair.Shell

/-- A whole text fits a pattern. -/
inductive Matches : List Glob → List Char → Prop where
  | done : Matches [] []
  | step {g : Glob} {c : Char} {gs : List Glob} {cs : List Char} (fits : g.fits c = true)
      (rest : Matches gs cs) : Matches (g :: gs) (c :: cs)
  | nothing {gs : List Glob} {cs : List Char} (rest : Matches gs cs) : Matches (.many :: gs) cs
  | more {gs : List Glob} {c : Char} {cs : List Char} (rest : Matches (.many :: gs) cs) :
      Matches (.many :: gs) (c :: cs)

variable {p q gs s t : List Glob} {states : List (List Glob)} {c : Char} {cs text : List Char}

theorem mem_leftOver_self (gs : List Glob) : gs ∈ leftOver gs := by
  unfold leftOver
  split <;> simp

theorem mem_leftOver_trans (first : s ∈ leftOver gs) (second : t ∈ leftOver s) :
    t ∈ leftOver gs := by
  fun_induction leftOver gs with
  | case1 gs ih =>
    rcases List.mem_cons.mp first with rfl | later
    · exact second
    · exact List.mem_cons_of_mem _ (ih later)
  | case2 gs other =>
    obtain rfl := List.mem_singleton.mp first
    rwa [leftOver.eq_2 s other] at second

theorem suffix_of_mem_leftOver (mem : s ∈ leftOver gs) : s <:+ gs := by
  fun_induction leftOver gs with
  | case1 gs ih =>
    rcases List.mem_cons.mp mem with rfl | later
    · exact List.suffix_rfl
    · exact (ih later).trans (List.suffix_cons _ _)
  | case2 gs => exact List.mem_singleton.mp mem ▸ List.suffix_rfl

theorem matches_of_mem_leftOver (mem : s ∈ leftOver gs) (h : Matches s cs) : Matches gs cs := by
  fun_induction leftOver gs with
  | case1 gs ih =>
    rcases List.mem_cons.mp mem with rfl | later
    · exact h
    · exact .nothing (ih later)
  | case2 gs => exact List.mem_singleton.mp mem ▸ h

/-- What is left after a character: a rest of the pattern itself, or of what follows the step that
the character fits. -/
theorem mem_after_iff : s ∈ after c gs ↔
    (∃ rest, gs = .many :: rest ∧ s ∈ leftOver gs) ∨
      ∃ g rest, gs = g :: rest ∧ g.fits c = true ∧ s ∈ leftOver rest := by
  fun_cases after c gs with
  | case1 rest => simp [Glob.fits]
  | case2 g rest other fits => simp_all
  | case3 g rest other fits => simp_all
  | case4 => simp

theorem suffix_of_mem_after (mem : s ∈ after c gs) : s <:+ gs := by
  obtain ⟨-, -, mem⟩ | ⟨g, rest, rfl, -, mem⟩ := mem_after_iff.mp mem
  · exact suffix_of_mem_leftOver mem
  · exact (suffix_of_mem_leftOver mem).trans (List.suffix_cons _ _)

theorem mem_after_trans (first : s ∈ after c gs) (second : t ∈ leftOver s) : t ∈ after c gs := by
  rw [mem_after_iff] at first ⊢
  obtain ⟨rest, shape, mem⟩ | ⟨g, rest, shape, fits, mem⟩ := first
  · exact .inl ⟨rest, shape, mem_leftOver_trans mem second⟩
  · exact .inr ⟨g, rest, shape, fits, mem_leftOver_trans mem second⟩

theorem matches_of_mem_after (mem : s ∈ after c gs) (h : Matches s cs) : Matches gs (c :: cs) := by
  obtain ⟨rest, rfl, mem⟩ | ⟨g, rest, rfl, fits, mem⟩ := mem_after_iff.mp mem
  · exact .more (matches_of_mem_leftOver mem h)
  · exact .step fits (matches_of_mem_leftOver mem h)

/-- What the search has at hand: rests of one pattern, and with each what it can skip to. -/
structure AreRests (p : List Glob) (states : List (List Glob)) : Prop where
  suffix : ∀ s ∈ states, s <:+ p
  skips : ∀ s ∈ states, ∀ t ∈ leftOver s, t ∈ states

theorem areRests_leftOver (p : List Glob) : AreRests p (leftOver p) :=
  ⟨fun _ => suffix_of_mem_leftOver, fun _ mem _ => mem_leftOver_trans mem⟩

/-- Rests of one pattern are told apart by their lengths. -/
theorem mem_distinct {found rests : List (List Glob)}
    (suffix : ∀ s ∈ found ++ rests, s <:+ p) :
    s ∈ rests.foldl (fun found gs =>
      if found.any (·.length = gs.length) then found else gs :: found) found ↔
    s ∈ found ∨ s ∈ rests := by
  induction rests generalizing found with
  | nil => simp
  | cons gs rests ih =>
    have whole (t : List Glob) (mem : t ∈ found ∨ t = gs ∨ t ∈ rests) : t <:+ p :=
      suffix t (by simpa using mem)
    rw [List.foldl_cons]
    split
    · rename_i known
      simp only [List.any_eq_true, decide_eq_true_eq] at known
      obtain ⟨other, mem, same⟩ := known
      obtain rfl : other = gs :=
        (List.suffix_of_suffix_length_le (whole other (.inl mem)) (whole gs (.inr (.inl rfl)))
          same.le).eq_of_length same
      rw [ih fun t there => whole t (by grind), List.mem_cons]
      grind
    · rw [ih fun t there => whole t (by grind), List.mem_cons, List.mem_cons]
      grind

theorem mem_afterAll_iff (rests : AreRests p states) :
    s ∈ afterAll c states ↔ ∃ t ∈ states, s ∈ after c t := by
  unfold afterAll
  rw [mem_distinct (p := p)]
  · simp
  · intro t mem
    obtain ⟨u, there, mem⟩ := List.mem_flatMap.mp (by simpa using mem)
    exact (suffix_of_mem_after mem).trans (rests.suffix u there)

theorem AreRests.afterAll (rests : AreRests p states) (c : Char) :
    AreRests p (afterAll c states) where
  suffix s mem := by
    obtain ⟨t, there, mem⟩ := (mem_afterAll_iff rests).mp mem
    exact (suffix_of_mem_after mem).trans (rests.suffix t there)
  skips s mem t skip := by
    obtain ⟨u, there, mem⟩ := (mem_afterAll_iff rests).mp mem
    exact (mem_afterAll_iff rests).mpr ⟨u, there, mem_after_trans mem skip⟩

theorem isDone_iff (rests : AreRests p states) :
    isDone states = true ↔ ∃ s ∈ states, Matches s [] := by
  have empties (s : List Glob) (h : Matches s []) : [] ∈ leftOver s := by
    generalize empty : ([] : List Char) = cs at h
    induction h with
    | done => exact mem_leftOver_self []
    | nothing _ ih => exact List.mem_cons_of_mem _ (ih empty)
    | step => cases empty
    | more => cases empty
  simp only [isDone, List.any_eq_true, List.isEmpty_iff, exists_eq_right]
  constructor
  · exact fun mem => ⟨[], mem, .done⟩
  · rintro ⟨s, mem, h⟩
    exact rests.skips s mem [] (empties s h)

/-- One character of the text and one step of the search. -/
theorem matches_cons_iff (rests : AreRests p states) :
    (∃ s ∈ states, Matches s (c :: cs)) ↔ ∃ s ∈ afterAll c states, Matches s cs := by
  simp only [mem_afterAll_iff rests]
  constructor
  · rintro ⟨s, mem, h⟩
    generalize text : c :: cs = all at h
    induction h with
    | done => cases text
    | step fits rest =>
      cases text
      exact ⟨_, ⟨_, mem, mem_after_iff.mpr (.inr ⟨_, _, rfl, fits, mem_leftOver_self _⟩)⟩, rest⟩
    | nothing rest ih =>
      exact ih (rests.skips _ mem _ (List.mem_cons_of_mem _ (mem_leftOver_self _))) text
    | more rest =>
      cases text
      exact ⟨_, ⟨_, mem, mem_after_iff.mpr (.inl ⟨_, rfl, mem_leftOver_self _⟩)⟩, rest⟩
  · rintro ⟨s, ⟨t, mem, there⟩, h⟩
    exact ⟨t, mem, matches_of_mem_after there h⟩

/-- The search tells whether a text fits. -/
theorem matches?_iff (p : List Glob) (text : List Char) :
    matches? p text = true ↔ Matches p text := by
  have search (states : List (List Glob)) (rests : AreRests p states) :
      isDone (text.foldl (fun states c => afterAll c states) states) = true ↔
        ∃ s ∈ states, Matches s text := by
    induction text generalizing states with
    | nil => exact isDone_iff rests
    | cons c cs ih => rw [List.foldl_cons, ih _ (rests.afterAll c), ← matches_cons_iff rests]
  rw [matches?, search _ (areRests_leftOver p)]
  constructor
  · rintro ⟨s, mem, h⟩
    exact matches_of_mem_leftOver mem h
  · exact fun h => ⟨p, mem_leftOver_self p, h⟩

section Start

/-- The lengths of the starts of a text that fit one of some patterns. -/
def starts (states : List (List Glob)) (text : List Char) : Set Nat :=
  {k | k ≤ text.length ∧ ∃ s ∈ states, Matches s (text.take k)}

theorem zero_mem_starts_iff (rests : AreRests p states) :
    0 ∈ starts states text ↔ isDone states = true := by
  simp [starts, isDone_iff rests]

theorem succ_mem_starts_iff (rests : AreRests p states) {k : Nat} :
    k + 1 ∈ starts states (c :: cs) ↔ k ∈ starts (afterAll c states) cs := by
  simp [starts, matches_cons_iff rests]

theorem isLeast_zero (rests : AreRests p states) (done : isDone states = true) :
    IsLeast (starts states text) 0 :=
  ⟨(zero_mem_starts_iff rests).mpr done, fun _ _ => Nat.zero_le _⟩

theorem isGreatest_zero (rests : AreRests p states) (done : isDone states = true)
    (last : ∀ k, k + 1 ∉ starts states text) : IsGreatest (starts states text) 0 := by
  refine ⟨(zero_mem_starts_iff rests).mpr done, fun k mem => ?_⟩
  cases k with
  | zero => exact le_rfl
  | succ k => exact absurd mem (last k)

theorem starts_eq_empty (rests : AreRests p states) (waits : ¬ isDone states = true)
    (last : ∀ k, k + 1 ∉ starts states text) : starts states text = ∅ := by
  refine Set.eq_empty_of_forall_notMem fun k mem => ?_
  cases k with
  | zero => exact waits ((zero_mem_starts_iff rests).mp mem)
  | succ k => exact last k mem

theorem succ_notMem_starts_nil (k : Nat) : k + 1 ∉ starts states [] :=
  fun mem => absurd mem.1 (Nat.not_succ_le_zero k)

theorem succ_notMem_starts_cons (rests : AreRests p states)
    (none_later : starts (afterAll c states) cs = ∅) (k : Nat) : k + 1 ∉ starts states (c :: cs) :=
  fun mem => (none_later ▸ (succ_mem_starts_iff rests).mp mem : k ∈ (∅ : Set Nat))

theorem isLeast_succ (rests : AreRests p states) (waits : ¬ isDone states = true) {k : Nat}
    (least : IsLeast (starts (afterAll c states) cs) k) :
    IsLeast (starts states (c :: cs)) (k + 1) := by
  refine ⟨(succ_mem_starts_iff rests).mpr least.1, fun j mem => ?_⟩
  cases j with
  | zero => exact absurd ((zero_mem_starts_iff rests).mp mem) waits
  | succ j => exact Nat.succ_le_succ (least.2 ((succ_mem_starts_iff rests).mp mem))

theorem isGreatest_succ (rests : AreRests p states) {k : Nat}
    (greatest : IsGreatest (starts (afterAll c states) cs) k) :
    IsGreatest (starts states (c :: cs)) (k + 1) := by
  refine ⟨(succ_mem_starts_iff rests).mpr greatest.1, fun j mem => ?_⟩
  cases j with
  | zero => exact Nat.zero_le _
  | succ j => exact Nat.succ_le_succ (greatest.2 ((succ_mem_starts_iff rests).mp mem))

theorem startLength_shortest (rests : AreRests p states) (n : Nat) (text : List Char) :
    (∃ k, IsLeast (starts states text) k ∧ startLength false states n none text = some (n + k)) ∨
      starts states text = ∅ ∧ startLength false states n none text = none := by
  induction text generalizing states n with
  | nil =>
    unfold startLength
    by_cases done : isDone states = true
    · exact .inl ⟨0, isLeast_zero rests done, if_pos done⟩
    · exact .inr ⟨starts_eq_empty rests done succ_notMem_starts_nil, if_neg done⟩
  | cons c cs ih =>
    unfold startLength
    by_cases done : isDone states = true
    · exact .inl ⟨0, isLeast_zero rests done, by simp [done]⟩
    rw [if_neg (by simp [done])]
    by_cases empty : states.isEmpty = true
    · rw [if_pos empty]
      right
      rw [List.isEmpty_iff.mp empty]
      exact ⟨by simp [starts], rfl⟩
    rw [if_neg empty, if_neg done]
    rcases ih (rests.afterAll c) (n + 1) with ⟨k, least, found⟩ | ⟨none_later, found⟩
    · refine .inl ⟨k + 1, isLeast_succ rests done least, ?_⟩
      rw [found, Nat.add_right_comm, Nat.add_assoc]
    · exact .inr ⟨starts_eq_empty rests done (succ_notMem_starts_cons rests none_later), found⟩

theorem startLength_longest (rests : AreRests p states) (n : Nat) (best : Option Nat)
    (text : List Char) :
    (∃ k, IsGreatest (starts states text) k ∧
      startLength true states n best text = some (n + k)) ∨
      starts states text = ∅ ∧ startLength true states n best text = best := by
  induction text generalizing states n best with
  | nil =>
    unfold startLength
    by_cases done : isDone states = true
    · exact .inl ⟨0, isGreatest_zero rests done succ_notMem_starts_nil, if_pos done⟩
    · exact .inr ⟨starts_eq_empty rests done succ_notMem_starts_nil, if_neg done⟩
  | cons c cs ih =>
    unfold startLength
    rw [if_neg (by simp)]
    by_cases empty : states.isEmpty = true
    · rw [if_pos empty]
      right
      rw [List.isEmpty_iff.mp empty]
      exact ⟨by simp [starts], rfl⟩
    rw [if_neg empty]
    rcases ih (rests.afterAll c) (n + 1) (if isDone states then some n else best) with
      ⟨k, greatest, found⟩ | ⟨none_later, found⟩
    · refine .inl ⟨k + 1, isGreatest_succ rests greatest, ?_⟩
      rw [found, Nat.add_right_comm, Nat.add_assoc]
    have last := succ_notMem_starts_cons rests none_later
    rw [found]
    by_cases done : isDone states = true
    · exact .inl ⟨0, isGreatest_zero rests done last, if_pos done⟩
    · exact .inr ⟨starts_eq_empty rests done last, if_neg done⟩

/-- How much of a text may be taken off: as little as possible, or as much. -/
def IsTaken (longest : Bool) (lengths : Set Nat) (k : Nat) : Prop :=
  if longest then IsGreatest lengths k else IsLeast lengths k

theorem starts_leftOver (p : List Glob) (text : List Char) :
    starts (leftOver p) text = {k | k ≤ text.length ∧ Matches p (text.take k)} := by
  ext k
  refine and_congr_right fun _ => ⟨?_, fun h => ⟨p, mem_leftOver_self p, h⟩⟩
  rintro ⟨s, mem, h⟩
  exact matches_of_mem_leftOver mem h

/-- What is taken off the start of a text fits, and nothing shorter does, or longer. -/
theorem withoutStart_spec (longest : Bool) (p : List Glob) (text : List Char) :
    (∃ k, IsTaken longest {k | k ≤ text.length ∧ Matches p (text.take k)} k ∧
      withoutStart longest p text = text.drop k) ∨
    (∀ k ≤ text.length, ¬ Matches p (text.take k)) ∧ withoutStart longest p text = text := by
  have spec : (∃ k, IsTaken longest (starts (leftOver p) text) k ∧
      startLength longest (leftOver p) 0 none text = some (0 + k)) ∨
      starts (leftOver p) text = ∅ ∧ startLength longest (leftOver p) 0 none text = none := by
    cases longest with
    | false => exact startLength_shortest (areRests_leftOver p) 0 text
    | true => exact startLength_longest (areRests_leftOver p) 0 none text
  rw [starts_leftOver] at spec
  unfold withoutStart
  rcases spec with ⟨k, taken, found⟩ | ⟨empty, found⟩
  · exact .inl ⟨k, taken, by rw [found, Nat.zero_add, Option.getD_some]⟩
  · refine .inr ⟨fun k short h => ?_, by rw [found]; rfl⟩
    have mem : k ∈ {k | k ≤ text.length ∧ Matches p (text.take k)} := ⟨short, h⟩
    rw [empty] at mem
    exact mem

end Start

section Reverse

theorem matches_append_iff : Matches (p ++ q) text ↔
    ∃ front back, text = front ++ back ∧ Matches p front ∧ Matches q back := by
  constructor
  · intro h
    generalize whole : p ++ q = pq at h
    induction h generalizing p with
    | done =>
      obtain ⟨rfl, rfl⟩ := List.append_eq_nil_iff.mp whole
      exact ⟨[], [], rfl, .done, .done⟩
    | @step g c gs cs fits rest ih =>
      cases p with
      | nil => exact ⟨[], c :: cs, rfl, .done, (List.nil_append q).symm.trans whole ▸ .step fits rest⟩
      | cons g' p =>
        obtain ⟨rfl, same⟩ := List.cons.inj whole
        obtain ⟨front, back, rfl, left, right⟩ := ih same
        exact ⟨c :: front, back, rfl, .step fits left, right⟩
    | @nothing gs cs rest ih =>
      cases p with
      | nil => exact ⟨[], cs, rfl, .done, (List.nil_append q).symm.trans whole ▸ .nothing rest⟩
      | cons g' p =>
        obtain ⟨rfl, same⟩ := List.cons.inj whole
        obtain ⟨front, back, rfl, left, right⟩ := ih same
        exact ⟨front, back, rfl, .nothing left, right⟩
    | @more gs c cs rest ih =>
      cases p with
      | nil => exact ⟨[], c :: cs, rfl, .done, (List.nil_append q).symm.trans whole ▸ .more rest⟩
      | cons g' p =>
        obtain ⟨front, back, rfl, left, right⟩ := ih whole
        obtain ⟨rfl, -⟩ := List.cons.inj whole
        exact ⟨c :: front, back, rfl, .more left, right⟩
  · rintro ⟨front, back, rfl, left, right⟩
    induction left with
    | done => exact right
    | step fits _ ih => exact .step fits ih
    | nothing _ ih => exact .nothing ih
    | more _ ih => exact .more ih

theorem matches_many (text : List Char) : Matches [.many] text := by
  induction text with
  | nil => exact .nothing .done
  | cons c cs ih => exact .more ih

theorem matches_singleton_reverse {g : Glob} (h : Matches [g] text) : Matches [g] text.reverse := by
  cases h with
  | step fits rest =>
    cases rest
    exact .step fits .done
  | nothing => exact matches_many _
  | more => exact matches_many _

theorem matches_reverse (h : Matches p text) : Matches p.reverse text.reverse := by
  induction p generalizing text with
  | nil =>
    cases h
    exact .done
  | cons g gs ih =>
    rw [← List.singleton_append, matches_append_iff] at h
    obtain ⟨front, back, rfl, left, right⟩ := h
    rw [List.reverse_cons, List.reverse_append, matches_append_iff]
    exact ⟨_, _, rfl, ih right, matches_singleton_reverse left⟩

theorem matches_reverse_iff : Matches p.reverse text.reverse ↔ Matches p text :=
  ⟨fun h => by simpa using matches_reverse h, matches_reverse⟩

/-- What is taken off the end of a text fits, and nothing shorter does, or longer. -/
theorem withoutEnd_spec (longest : Bool) (p : List Glob) (text : List Char) :
    (∃ k, IsTaken longest {k | k ≤ text.length ∧ Matches p (text.drop (text.length - k))} k ∧
      withoutEnd longest p text = text.take (text.length - k)) ∨
    (∀ k ≤ text.length, ¬ Matches p (text.drop (text.length - k))) ∧
      withoutEnd longest p text = text := by
  have turned (k : Nat) : Matches p.reverse (text.reverse.take k) ↔
      Matches p (text.drop (text.length - k)) := by
    rw [List.take_reverse, matches_reverse_iff]
  have spec := withoutStart_spec longest p.reverse text.reverse
  simp only [turned, List.length_reverse] at spec
  unfold withoutEnd
  rcases spec with ⟨k, taken, found⟩ | ⟨none_fits, found⟩
  · exact .inl ⟨k, taken, by rw [found, List.drop_reverse, List.reverse_reverse]⟩
  · exact .inr ⟨none_fits, by rw [found, List.reverse_reverse]⟩

end Reverse

section Quoted

theorem patternText_quoted (text : List Char) :
    patternText true (text.map (.char · true)) = text.flatMap fun c => ['\\', c] := by
  induction text with
  | nil => rfl
  | cons c cs ih => simp [patternText, ih]

theorem globs_quoted (fuel : Nat) (enough : text.length < fuel) :
    globs fuel (text.flatMap fun c => ['\\', c]) = text.map .one := by
  induction text generalizing fuel with
  | nil =>
    cases fuel with
    | zero => cases enough
    | succ => rfl
  | cons c cs ih =>
    cases fuel with
    | zero => cases enough
    | succ fuel =>
      rw [List.flatMap_cons, List.map_cons, ← ih fuel (Nat.lt_of_succ_lt_succ enough)]
      rfl

theorem matches_ones_iff : Matches (text.map .one) cs ↔ cs = text := by
  induction text generalizing cs with
  | nil =>
    constructor
    · rintro ⟨⟩
      rfl
    · rintro rfl
      exact .done
  | cons c text ih =>
    constructor
    · intro h
      cases h with
      | step fits rest =>
        obtain rfl := of_decide_eq_true fits
        rw [ih.mp rest]
    · rintro rfl
      exact .step (decide_eq_true rfl) (ih.mpr rfl)

/-- A text that is quoted as a whole fits itself alone, whatever characters it has. -/
theorem matches?_quoted (quoted text : List Char) :
    matches? (patternOfChunks [.text quoted true .whole]) text = true ↔ text = quoted := by
  have shape : patternOfChunks [.text quoted true .whole] = quoted.map .one := by
    simp only [patternOfChunks, List.flatMap_singleton, patternText_quoted, patternOf]
    refine globs_quoted _ ?_
    simp
    omega
  rw [matches?_iff, shape, matches_ones_iff]

end Quoted

end LintRepair.Shell
