import LintRepair.Proofs.Text.Lines
import LintRepair.Reply.Fence

/-!
How the lines of a reply are read into fenced blocks. A line that opens nothing is passed over, and
a block that is complete is read whole, so a stretch of prose and complete blocks in front of other
lines does not change what is read out of these.
-/
namespace LintRepair.Reply
open Text

variable {l opener closer indent info : List Char} {body below : List (List Char)}

theorem fences_cons_of_unopened (h : opening? l = none) : fences (l :: below) = fences below := by
  rw [fences, h]

theorem fences_append_of_unopened {ls : List (List Char)} (h : ∀ l ∈ ls, opening? l = none)
    (below : List (List Char)) : fences (ls ++ below) = fences below := by
  induction ls with
  | nil => rfl
  | cons l ls ih =>
    obtain ⟨first, others⟩ := List.forall_mem_cons.mp h
    rw [List.cons_append, fences_cons_of_unopened first, ih others]

theorem dropWhile_unclosed (inner : ∀ l ∈ body, isClosing l = false)
    (closes : isClosing closer = true) :
    (body ++ closer :: below).dropWhile (!isClosing ·) = closer :: below :=
  dropWhile_append_cons (fun l hl => by simp [inner l hl]) (by simp [closes])

theorem takeWhile_unclosed (inner : ∀ l ∈ body, isClosing l = false)
    (closes : isClosing closer = true) :
    (body ++ closer :: below).takeWhile (!isClosing ·) = body :=
  takeWhile_append_cons (fun l hl => by simp [inner l hl]) (by simp [closes])

/-- The first line below that closes ends the block, and the reading goes on behind it. -/
theorem fences_cons_of_closed (opens : opening? opener = some (indent, info))
    (inner : ∀ l ∈ body, isClosing l = false) (closes : isClosing closer = true)
    (below : List (List Char)) :
    fences (opener :: (body ++ closer :: below)) = ⟨indent, info, body⟩ :: fences below := by
  rw [fences, opens]
  simp only [dropWhile_unclosed inner closes, takeWhile_unclosed inner closes, List.drop_succ_cons,
    List.drop_zero]

theorem fences_cons_of_unclosed (opens : opening? l = some (indent, info))
    (unclosed : ∀ m ∈ below, isClosing m = false) : fences (l :: below) = [] := by
  have none : below.dropWhile (!isClosing ·) = [] :=
    List.dropWhile_eq_nil_iff.mpr fun m hm => by rw [unclosed m hm]; rfl
  rw [fences, opens]
  simp only [none]

/-- Induction along the reading of some lines: a line is passed over, or opens a block that is
closed further down, or opens one that is not. -/
theorem fences_induction {motive : List (List Char) → Prop} (ls : List (List Char))
    (nil : motive [])
    (passed : ∀ l below, opening? l = none → motive below → motive (l :: below))
    (block : ∀ l indent info body closer after, opening? l = some (indent, info) →
      (∀ m ∈ body, isClosing m = false) → isClosing closer = true → motive after →
      motive (l :: (body ++ closer :: after)))
    (unclosed : ∀ l indent info below, opening? l = some (indent, info) →
      (∀ m ∈ below, isClosing m = false) → motive (l :: below)) :
    motive ls := by
  induction ls using fences.induct with
  | case1 => exact nil
  | case2 l below unopened ih => exact passed l below unopened ih
  | case3 l below indent info opens none =>
    refine unclosed l indent info below opens fun m hm => ?_
    simpa using List.dropWhile_eq_nil_iff.mp none m hm
  | case4 l below indent info opens closer after found ih =>
    have whole : below.takeWhile (!isClosing ·) ++ closer :: after = below := by
      rw [← found, List.takeWhile_append_dropWhile]
    have closes : isClosing closer = true := by
      have := List.head?_dropWhile_not (!isClosing ·) below
      simpa [found] using this
    rw [found] at ih
    rw [← whole]
    refine block l indent info _ closer after opens (fun m hm => ?_) closes ih
    simpa using List.mem_takeWhile_imp hm

/-- What stands before the backticks of an opening line is indentation. -/
theorem isIndent_of_mem_fences {ls : List (List Char)} {f : Fence} (mem : f ∈ fences ls) :
    ∀ c ∈ f.indent, isIndent c = true := by
  induction ls using fences_induction with
  | nil => simp [fences] at mem
  | passed l below unopened ih =>
    rw [fences_cons_of_unopened unopened] at mem
    exact ih mem
  | block l indent info body closer after opens inner closes ih =>
    rw [fences_cons_of_closed opens inner closes] at mem
    rcases List.mem_cons.mp mem with rfl | mem
    · obtain ⟨rest, -, parts⟩ := Option.map_eq_some_iff.mp opens
      obtain ⟨rfl, -⟩ := Prod.mk.inj parts
      exact fun c hc => List.mem_takeWhile_imp hc
    · exact ih mem
  | unclosed l indent info below opens unclosed =>
    rw [fences_cons_of_unclosed opens unclosed] at mem
    cases mem

theorem opening?_append_ticks (indented : ∀ c ∈ indent, isIndent c = true) (info : List Char) :
    opening? (indent ++ (ticks ++ info)) = some (indent, info) := by
  have tick : isIndent '`' = false := by decide
  have start : ticks ++ info = '`' :: ('`' :: '`' :: info) := rfl
  have rest : (ticks ++ info).dropWhile isIndent = ticks ++ info := by
    rw [start, List.dropWhile_cons_of_neg (by simp [tick])]
  have none : (ticks ++ info).takeWhile isIndent = [] := by
    rw [start, List.takeWhile_cons_of_neg (by simp [tick])]
  rw [opening?, List.dropWhile_append_of_pos indented, List.takeWhile_append_of_pos indented, rest,
    none, after?_append, List.append_nil]
  rfl

/-- Backticks at the start of a line open a block that is not indented. -/
theorem opening?_ticks (info : List Char) : opening? (ticks ++ info) = some ([], info) := by
  have flush : ∀ c ∈ ([] : List Char), isIndent c = true := nofun
  exact opening?_append_ticks flush info

theorem isClosing_append (indented : ∀ c ∈ indent, isIndent c = true) (l : List Char) :
    isClosing (indent ++ l) = isClosing l := by
  simp only [isClosing, List.dropWhile_append_of_pos indented]

theorem isClosing_ticks : isClosing ticks = true := by decide

theorem Fence.text_eq (f : Fence) (filled : f.body ≠ []) : f.text = joinLines f.body ++ ['\n'] := by
  obtain ⟨indent, info, body⟩ := f
  simp only [text] at filled ⊢
  induction body with
  | nil => exact absurd rfl filled
  | cons l body ih =>
    cases body with
    | nil => simp [joinLines, join]
    | cons m body =>
      rw [List.flatMap_cons, ih (List.cons_ne_nil m body)]
      simp [joinLines, join]

/-- Beside the block that is meant a reply holds lines of prose and other complete blocks. -/
inductive Segment where
  | prose (line : List Char)
  | block (opener : List Char) (body : List (List Char)) (closer : List Char)
deriving DecidableEq, Repr

namespace Segment

def lines : Segment → List (List Char)
  | .prose l => [l]
  | .block opener body closer => opener :: (body ++ [closer])

/-- The segment as text, without a line feed at its end. -/
def text (x : Segment) : List Char := joinLines x.lines

def fence? : Segment → Option Fence
  | .prose _ => none
  | .block opener body _ => (opening? opener).map fun o => ⟨o.1, o.2, body⟩

/-- Prose opens no block; the first line of a block opens it, and only its last one closes it. -/
def Complete : Segment → Prop
  | .prose l => opening? l = none
  | .block opener body closer =>
    (opening? opener).isSome = true ∧ (∀ l ∈ body, isClosing l = false) ∧ isClosing closer = true

instance (x : Segment) : Decidable x.Complete :=
  match x with
  | .prose l => inferInstanceAs (Decidable (opening? l = none))
  | .block opener body closer =>
    inferInstanceAs (Decidable ((opening? opener).isSome = true ∧
      (∀ l ∈ body, isClosing l = false) ∧ isClosing closer = true))

theorem lines_ne_nil (x : Segment) : x.lines ≠ [] := by
  cases x <;> exact List.cons_ne_nil _ _

theorem pieces_text {x : Segment} (uncut : ∀ l ∈ x.lines, '\n' ∉ l) : pieces x.text = x.lines :=
  pieces_joinLines uncut x.lines_ne_nil

theorem Complete.fences_append {x : Segment} (complete : x.Complete) (ls : List (List Char)) :
    fences (x.lines ++ ls) = x.fence?.toList ++ fences ls := by
  cases x with
  | prose l => exact fences_cons_of_unopened complete
  | block opener body closer =>
    obtain ⟨opened, inner, closed⟩ := complete
    obtain ⟨⟨indent, info⟩, opens⟩ := Option.isSome_iff_exists.mp opened
    have read := fences_cons_of_closed opens inner closed ls
    simpa [lines, fence?, opens] using read

end Segment

/-- Complete segments are read one by one, whatever lines follow them. -/
theorem fences_segments {xs : List Segment} (complete : ∀ x ∈ xs, x.Complete)
    (ls : List (List Char)) :
    fences (xs.flatMap Segment.lines ++ ls) = xs.filterMap Segment.fence? ++ fences ls := by
  induction xs with
  | nil => rfl
  | cons x xs ih =>
    have read := ih fun y hy => complete y (List.mem_cons_of_mem x hy)
    rw [List.flatMap_cons, List.append_assoc, (complete x List.mem_cons_self).fences_append, read,
      List.filterMap_cons, ← List.append_assoc]
    cases x.fence? <;> rfl

end LintRepair.Reply
