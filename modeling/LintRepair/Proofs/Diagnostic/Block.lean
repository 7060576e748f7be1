import LintRepair.Diagnostic.Extract
import LintRepair.Proofs.Diagnostic.Line

/-!
Blocks by the numbers of their lines: where one starts, how far it reaches and what its diagnostic
says. Two blocks meet in no more than one line, the last body line of the upper one.
-/
namespace LintRepair.Diagnostic
open Text

/-- Line `i` has a header with more than white space for a title, a location line stands right
below it and a body line below that. -/
structure StartsBlock (ls : List (List Char)) (i : Nat) : Prop where
  header : ∃ line before h, ls[i]? = some line ∧ Header.Behind h before line ∧
    allBlank h.title = false
  location : ∃ l, ls[i + 1]? = some l ∧ isLocation l = true
  body : ∃ l, ls[i + 2]? = some l ∧ isBody l = true

/-- The longest run of body lines below the first two lines of a block. -/
def bodyAt (ls : List (List Char)) (i : Nat) : List (List Char) :=
  (ls.drop (i + 2)).takeWhile isBody

/-- The number of the first line below a block. -/
def blockEnd (ls : List (List Char)) (i : Nat) : Nat := i + 2 + (bodyAt ls i).length

/-- The diagnostic that the block at line `i` reports. -/
structure Carries (ls : List (List Char)) (i : Nat) (d : Diagnostic) : Prop where
  header : ∃ line h, ls[i]? = some line ∧ Header.Leftmost h line ∧
    d.code.toList = h.code ∧ d.title.toList = trim h.title
  location : ∃ l, ls[i + 1]? = some l ∧ d.location.toList = trim l
  context : d.context.toList = trim (joinLines (bodyAt ls i))
  help : d.help = none

variable {ls below : List (List Char)} {line l : List Char} {d : Diagnostic} {i k n : Nat}

/-- A header has one space between its code and its title, and none before. -/
theorem Header.Behind.exists_text_eq {h : Header} {before : List Char}
    (stands : h.Behind before line) : ∃ x, ' ' ∉ x ∧ h.text = x ++ ' ' :: h.title := by
  obtain ⟨digits, number, hcode⟩ := stands.code
  refine ⟨"error[".toList ++ h.code ++ "]:".toList, ?_, ?_⟩
  · have digitless : ' ' ∉ digits := fun mem => absurd (number.digits ' ' mem) (by decide)
    simp [hcode, digitless]
  · rw [Header.text_eq]
    simp

/-- The title of the leftmost header holds those of all others in its line. -/
theorem Header.Leftmost.title_of_behind {h g : Header} {before : List Char}
    (left : h.Leftmost line) (stands : g.Behind before line) (title : allBlank g.title = false) :
    allBlank h.title = false := by
  obtain ⟨front, first, least⟩ := left
  obtain ⟨x, spaceless, hx⟩ := first.exists_text_eq
  obtain ⟨y, -, hy⟩ := stands.exists_text_eq
  have further : ∃ mid, before = front ++ mid := by
    have fronts : front <+: line := ⟨h.text, first.written.symm⟩
    have befores : before <+: line := ⟨g.text, stands.written.symm⟩
    obtain ⟨mid, hmid⟩ := List.prefix_of_prefix_length_le fronts befores (least before g stands)
    exact ⟨mid, hmid.symm⟩
  obtain ⟨mid, rfl⟩ := further
  have texts : x ++ ' ' :: h.title = (mid ++ y) ++ ' ' :: g.title := by
    have both := first.written.symm.trans stands.written
    rw [List.append_assoc, List.append_cancel_left_eq, hx, hy] at both
    rw [both, List.append_assoc]
  rcases List.append_eq_append_iff.mp texts with ⟨z, -, hz⟩ | ⟨z, hz, hg⟩
  · cases z with
    | nil => rwa [(List.cons.inj hz).2]
    | cons c z =>
      have deeper : h.title = z ++ ' ' :: g.title := (List.cons.inj hz).2
      simp only [allBlank] at title
      simp [allBlank, deeper, title]
  · cases z with
    | nil => rwa [← (List.cons.inj hg).2]
    | cons c z =>
      obtain ⟨rfl, -⟩ := List.cons.inj hg
      simp [hz] at spaceless

theorem bodyAt_drop (ls : List (List Char)) (n i : Nat) :
    bodyAt (ls.drop n) i = bodyAt ls (n + i) := by
  rw [bodyAt, List.drop_drop, bodyAt, Nat.add_assoc]

theorem startsBlock_drop : StartsBlock (ls.drop n) i ↔ StartsBlock ls (n + i) := by
  constructor
  · rintro ⟨header, location, body⟩
    simp only [List.getElem?_drop] at header location body
    exact ⟨header, location, body⟩
  · rintro ⟨header, location, body⟩
    constructor <;> simp only [List.getElem?_drop]
    · exact header
    · exact location
    · exact body

theorem carries_drop : Carries (ls.drop n) i d ↔ Carries ls (n + i) d := by
  constructor
  · rintro ⟨header, location, context, help⟩
    simp only [List.getElem?_drop, bodyAt_drop] at header location context
    exact ⟨header, location, context, help⟩
  · rintro ⟨header, location, context, help⟩
    refine ⟨?_, ?_, ?_, help⟩ <;> simp only [List.getElem?_drop, bodyAt_drop]
    · exact header
    · exact location
    · exact context

theorem StartsBlock.lt_length (starts : StartsBlock ls i) : i < ls.length := by
  obtain ⟨⟨_, _, _, hline, _⟩, _, _⟩ := starts
  exact (List.getElem?_eq_some_iff.mp hline).1

theorem getElem?_bodyAt (inside : k < (bodyAt ls i).length) :
    (bodyAt ls i)[k]? = ls[i + 2 + k]? := by
  obtain ⟨rest, whole⟩ := List.takeWhile_prefix isBody (l := ls.drop (i + 2))
  rw [← List.getElem?_drop, ← whole]
  exact (List.getElem?_append_left inside).symm

theorem body_of_lt_blockEnd (from_body : i + 2 ≤ k) (below_end : k < blockEnd ls i) :
    ∃ l, ls[k]? = some l ∧ isBody l = true := by
  have inside : k - (i + 2) < (bodyAt ls i).length := by
    rw [blockEnd] at below_end
    omega
  refine ⟨(bodyAt ls i)[k - (i + 2)], ?_, List.mem_takeWhile_imp (List.getElem_mem inside)⟩
  rw [← List.getElem?_eq_getElem inside, getElem?_bodyAt inside, Nat.add_sub_of_le from_body]

/-- A block that starts inside another one starts on its last line. -/
theorem StartsBlock.inside (upper : StartsBlock ls i) (lower : StartsBlock ls k) (after : i < k)
    (above : k < blockEnd ls i) : i + 2 ≤ k ∧ k + 1 = blockEnd ls i := by
  obtain ⟨place, hplace, loc⟩ := lower.location
  have not_body {l : List Char} (hl : ls[k + 1]? = some l) : isBody l = false := by
    obtain rfl : place = l := Option.some.inj (hplace.symm.trans hl)
    exact isBody_eq_false_of_isLocation loc
  have deep : i + 2 ≤ k := by
    by_contra shallow
    obtain rfl : k = i + 1 := by omega
    obtain ⟨l, hl, body⟩ := upper.body
    simp [not_body hl] at body
  refine ⟨deep, ?_⟩
  by_contra inner
  have before : k + 1 < blockEnd ls i := by omega
  obtain ⟨l, hl, body⟩ := body_of_lt_blockEnd (Nat.le_succ_of_le deep) before
  simp [not_body hl] at body

theorem dropWhile_eq_drop_blockEnd :
    (ls.drop (i + 2)).dropWhile isBody = ls.drop (blockEnd ls i) := by
  have whole : bodyAt ls i ++ (ls.drop (i + 2)).dropWhile isBody = ls.drop (i + 2) :=
    List.takeWhile_append_dropWhile
  calc (ls.drop (i + 2)).dropWhile isBody
      = (bodyAt ls i ++ (ls.drop (i + 2)).dropWhile isBody).drop (bodyAt ls i).length :=
        List.drop_left.symm
    _ = ls.drop (blockEnd ls i) := by rw [whole, List.drop_drop, blockEnd]

theorem trim_joinLines_ne_nil {body : List (List Char)} (all : ∀ l ∈ body, isBody l = true)
    (ne : body ≠ []) : trim (joinLines body) ≠ [] := by
  obtain ⟨l, ls, rfl⟩ := List.exists_cons_of_ne_nil ne
  obtain ⟨b, hb⟩ := exists_joinLines_cons ls
  have first := not_allBlank_of_isBody (all l List.mem_cons_self)
  rw [trim_ne_nil_iff, hb, allBlank, List.all_append, ← allBlank, first, Bool.false_and]

theorem StartsBlock.bodyAt_ne_nil (starts : StartsBlock ls i) : bodyAt ls i ≠ [] := by
  obtain ⟨l, hl, body⟩ := starts.body
  obtain ⟨inside, rfl⟩ := List.getElem?_eq_some_iff.mp hl
  rw [bodyAt, List.drop_eq_getElem_cons inside, List.takeWhile_cons_of_pos body]
  exact List.cons_ne_nil _ _

/-- A block is found where one starts, and its diagnostic is what stands there. -/
theorem startsBlock_of_block? (found : block? line below = some d) :
    StartsBlock (line :: below) 0 ∧ Carries (line :: below) 0 d := by
  simp only [block?] at found
  split at found
  next h location more header =>
    split at found
    next good =>
      simp only [Bool.and_eq_true, Bool.not_eq_true', List.isEmpty_eq_false_iff] at good
      obtain ⟨⟨loc, title⟩, context⟩ := good
      have left := header?_eq_some_iff.mp header
      have ⟨before, stands, _⟩ := left
      have titled : allBlank h.title = false := trim_ne_nil_iff.mp title
      obtain rfl := Option.some.inj found
      refine ⟨⟨⟨line, before, h, rfl, stands, titled⟩, ⟨location, rfl, loc⟩, ?_⟩,
        ⟨line, h, rfl, left, by simp, by simp⟩, ⟨location, rfl, by simp⟩, by simp [bodyAt], rfl⟩
      cases more with
      | nil => simp [joinLines, join, trim_of_allBlank allBlank_nil] at context
      | cons l more =>
        refine ⟨l, rfl, ?_⟩
        by_contra not_body
        simp [not_body, joinLines, join, trim_of_allBlank allBlank_nil] at context
    next => simp at found
  next => simp at found

theorem exists_block?_of_startsBlock (starts : StartsBlock (line :: below) 0) :
    ∃ d, block? line below = some d := by
  have nonempty := starts.bodyAt_ne_nil
  obtain ⟨⟨_, before, g, hline, stands, titled⟩, ⟨location, hlocation, loc⟩, -⟩ := starts
  obtain rfl := Option.some.inj hline
  obtain ⟨h, header⟩ := exists_header?_of_behind stands
  have title : trim h.title ≠ [] :=
    trim_ne_nil_iff.mpr ((leftmost_of_header? header).title_of_behind stands titled)
  obtain ⟨more, rfl⟩ : ∃ more, below = location :: more := by
    cases below with
    | nil => simp at hlocation
    | cons x more => exact ⟨more, by simpa using hlocation⟩
  have context : trim (joinLines (more.takeWhile isBody)) ≠ [] :=
    trim_joinLines_ne_nil (fun _ => List.mem_takeWhile_imp) nonempty
  simp only [block?, header]
  rw [if_pos (by simp [loc, title, context])]
  exact ⟨_, rfl⟩

end LintRepair.Diagnostic
