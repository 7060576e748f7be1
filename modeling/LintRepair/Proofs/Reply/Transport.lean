import LintRepair.Proofs.Reply.Fence
import LintRepair.Reply.Source

/-!
A source that is sent between fences arrives. Whatever prose and whatever complete blocks stand
around it, the reply offers that source as long as no other usable block is as large.
-/
namespace LintRepair.Reply
open Text

variable {t b info s : List Char} {ts before after : List (List Char)}

theorem longest?_concat (ts : List (List Char)) (t : List Char) :
    longest? (ts ++ [t]) = (longest? ts).elim (some t) fun b =>
      if byteSize b ≤ byteSize t then some t else some b := by
  rw [longest?, List.foldl_append, ← longest?]
  cases longest? ts <;> rfl

theorem mem_of_longest? (h : longest? ts = some t) : t ∈ ts := by
  induction ts using List.reverseRecOn generalizing t with
  | nil => cases h
  | append_singleton ts u ih =>
    rw [longest?_concat] at h
    cases best : longest? ts with
    | none => simp_all
    | some b =>
      rw [best, Option.elim_some] at h
      split at h
      · simp_all
      · obtain rfl := Option.some.inj h
        exact List.mem_append_left _ (ih best)

/-- A text wins if none above it is larger and all below it are smaller. -/
theorem longest?_of_greatest (above : ∀ x ∈ before, byteSize x ≤ byteSize t)
    (below : ∀ x ∈ after, byteSize x < byteSize t) : longest? (before ++ t :: after) = some t := by
  induction after using List.reverseRecOn with
  | nil =>
    rw [longest?_concat]
    cases best : longest? before with
    | none => rfl
    | some b => rw [Option.elim_some, if_pos (above b (mem_of_longest? best))]
  | append_singleton after u ih =>
    have larger := below u (by simp)
    have best := ih fun x hx => below x (List.mem_append_left _ hx)
    rw [← List.cons_append, ← List.append_assoc, longest?_concat, best, Option.elim_some,
      if_neg (Nat.not_le_of_gt larger)]

/-- A text that is larger than all others wins, wherever it stands. -/
theorem longest?_of_largest (h : ∀ x ∈ before ++ after, byteSize x < byteSize t) :
    longest? (before ++ t :: after) = some t := by
  rw [List.forall_mem_append] at h
  exact longest?_of_greatest (fun x hx => Nat.le_of_lt (h.1 x hx)) h.2

/-- A source between fences, with this info behind the opening one. -/
def wrapped (info s : List Char) : List Char := ticks ++ info ++ '\n' :: (s ++ '\n' :: ticks)

/-- The segment offers nothing, or less than so many bytes. -/
def Segment.Below (size : Nat) (x : Segment) : Prop :=
  ∀ f ∈ x.fence?, f.isUsable = true → byteSize f.dedented < size

instance (size : Nat) (x : Segment) : Decidable (x.Below size) :=
  inferInstanceAs (Decidable (∀ f ∈ x.fence?, f.isUsable = true → byteSize f.dedented < size))

theorem pieces_wrapped (plain : '\n' ∉ info) :
    pieces (wrapped info s) = (ticks ++ info) :: (pieces s ++ [ticks]) := by
  have uncut : '\n' ∉ ticks ++ info := by
    rw [List.mem_append, not_or]
    exact ⟨by decide, plain⟩
  rw [wrapped, pieces, split_append_sep, split_append_sep, split_of_not_mem uncut]
  rfl

theorem dedented_wrapped (info s : List Char) :
    (⟨[], info, pieces s⟩ : Fence).dedented = s ++ ['\n'] := by
  have flush : ([] : List Char).isEmpty = true := rfl
  rw [Fence.dedented, if_pos flush, Fence.text_eq _ (pieces_ne_nil s), joinLines_pieces]

/-- The blocks of a reply are those of the segments before, the wrapped source, and those behind. -/
theorem fences_reply {xs ys : List Segment} (plain : '\n' ∉ info)
    (unclosed : ∀ l ∈ pieces s, isClosing l = false)
    (uncut : ∀ x ∈ xs ++ ys, ∀ l ∈ x.lines, '\n' ∉ l) (complete : ∀ x ∈ xs ++ ys, x.Complete) :
    fences (pieces (joinLines (xs.map Segment.text ++ wrapped info s :: ys.map Segment.text))) =
      xs.filterMap Segment.fence? ++ ⟨[], info, pieces s⟩ :: ys.filterMap Segment.fence? := by
  have cut (zs : List Segment) (sub : ∀ x ∈ zs, x ∈ xs ++ ys) :
      (zs.map Segment.text).flatMap pieces = zs.flatMap Segment.lines := by
    rw [List.flatMap_map]
    exact List.flatMap_congr fun x hx => Segment.pieces_text (uncut x (sub x hx))
  have hx : ∀ x ∈ xs, x ∈ xs ++ ys := fun x hx => List.mem_append_left _ hx
  have hy : ∀ x ∈ ys, x ∈ xs ++ ys := fun x hx => List.mem_append_right _ hx
  have wanted := fences_cons_of_closed (opening?_ticks info) unclosed isClosing_ticks
    (ys.flatMap Segment.lines)
  have behind := fences_segments (fun x h => complete x (hy x h)) []
  rw [List.append_nil, fences, List.append_nil] at behind
  rw [pieces_joinLines_eq_flatMap (by simp), List.flatMap_append, List.flatMap_cons, cut xs hx,
    cut ys hy, pieces_wrapped plain, fences_segments fun x h => complete x (hx x h)]
  rw [List.cons_append, List.append_assoc, List.singleton_append, wanted, behind]

theorem filled_or_filled {a b : List Char} (filled : allBlank (a ++ b) = false) :
    allBlank a = false ∨ allBlank b = false := by
  rw [← Bool.not_eq_true, allBlank_append, not_and_or] at filled
  simpa only [Bool.not_eq_true] using filled

theorem allBlank_dropWhile_isLineEnd (filled : allBlank s = false) :
    allBlank (s.dropWhile isLineEnd) = false := by
  have ends : allBlank (s.takeWhile isLineEnd) = true := by
    refine allBlank_iff.mpr fun c hc => ?_
    have := List.mem_takeWhile_imp hc
    simp only [isLineEnd, Bool.or_eq_true, decide_eq_true_eq] at this
    rcases this with rfl | rfl
    · exact isBlank_carriageReturn
    · exact isBlank_lineFeed
  rw [← List.takeWhile_append_dropWhile (p := isLineEnd) (l := s)] at filled
  exact (filled_or_filled filled).resolve_left (by simp [ends])

theorem allBlank_trimEnd (filled : allBlank s = false) : allBlank (trimEnd s) = false := by
  have ends : allBlank (s.rtakeWhile isBlank) = true :=
    allBlank_iff.mpr fun _ => List.mem_rtakeWhile_imp
  have whole : trimEnd s ++ s.rtakeWhile isBlank = s := List.rdropWhile_append_rtakeWhile
  rw [← whole] at filled
  exact (filled_or_filled filled).resolve_right (by simp [ends])

/-- The line feed behind a text that is not blank is tidied away. -/
theorem tidied_append_lineFeed (filled : allBlank s = false) :
    trimEnd ((s ++ ['\n']).dropWhile isLineEnd) = trimEnd (s.dropWhile isLineEnd) := by
  have inside := allBlank_dropWhile_isLineEnd filled
  have ne : (s.dropWhile isLineEnd).isEmpty = false := by
    rw [Bool.eq_false_iff]
    intro none
    rw [List.isEmpty_iff.mp none] at inside
    cases inside
  rw [List.dropWhile_append, ne, if_neg Bool.false_ne_true]
  exact trimEnd_append_of_blank (by decide)

/-- What is taken out of the wanted block is tidied at both ends. -/
theorem source?_of_longest {reply : List Char} (filled : allBlank s = false)
    (best : longest? (candidates reply) = some (s ++ ['\n'])) :
    source? (String.ofList reply) =
      some (String.ofList (trimEnd (s.dropWhile isLineEnd) ++ ['\n'])) := by
  have inside := allBlank_trimEnd (allBlank_dropWhile_isLineEnd filled)
  rw [source?, String.toList_ofList, offered?, best]
  simp only [tidied_append_lineFeed filled, inside, Bool.false_eq_true, if_false]

/-- A source that is not blank and holds no bare fence arrives in every reply that puts it between
fences with a wanted tag, or none, when all around it is prose and complete blocks that are tagged
otherwise or are smaller. Line ends before it and white space behind it are tidied. -/
theorem source?_reply {xs ys : List Segment} (filled : allBlank s = false)
    (unclosed : ∀ l ∈ pieces s, isClosing l = false) (plain : '\n' ∉ info)
    (tagged : (⟨[], info, pieces s⟩ : Fence).isUsable = true)
    (uncut : ∀ x ∈ xs ++ ys, ∀ l ∈ x.lines, '\n' ∉ l) (complete : ∀ x ∈ xs ++ ys, x.Complete)
    (below : ∀ x ∈ xs ++ ys, x.Below (byteSize (s ++ ['\n']))) :
    source? (String.ofList
        (joinLines (xs.map Segment.text ++ wrapped info s :: ys.map Segment.text))) =
      some (String.ofList (trimEnd (s.dropWhile isLineEnd) ++ ['\n'])) := by
  apply source?_of_longest filled
  have smaller (zs : List Segment) (sub : ∀ x ∈ zs, x ∈ xs ++ ys) :
      ∀ b ∈ ((zs.filterMap Segment.fence?).filter Fence.isUsable).map Fence.dedented,
        byteSize b < byteSize (s ++ ['\n']) := by
    intro b hb
    obtain ⟨f, hf, rfl⟩ := List.mem_map.mp hb
    obtain ⟨read, usable⟩ := List.mem_filter.mp hf
    obtain ⟨x, hx, fence⟩ := List.mem_filterMap.mp read
    exact below x (sub x hx) f fence usable
  rw [candidates, fences_reply plain unclosed uncut complete, List.filter_append,
    List.filter_cons_of_pos tagged, List.map_append, List.map_cons, dedented_wrapped]
  apply longest?_of_largest
  intro b hb
  rcases List.mem_append.mp hb with hb | hb
  · exact smaller xs (fun x hx => List.mem_append_left _ hx) b hb
  · exact smaller ys (fun x hx => List.mem_append_right _ hx) b hb

/-- Prose, a short block of the wanted language, and a long block of another one. -/
def asides : List Segment :=
  [.prose "Instead of".toList, .block "  ```rs".toList ["  f();".toList] "  ```".toList,
    .prose [], .block "```text".toList ["a long explanation that is no source".toList] "```".toList]

/-- Here a line of the source looks like an opening fence. -/
theorem source?_reply_asides :
    let info := " Rust,ignore".toList
    let s := "\n\nfn main() \x7b\n  // ```rust\n\x7d \n".toList
    allBlank s = false ∧ (∀ l ∈ pieces s, isClosing l = false) ∧ '\n' ∉ info ∧
      (⟨[], info, pieces s⟩ : Fence).isUsable = true ∧
      (∀ x ∈ asides ++ [.prose "Done.".toList], ∀ l ∈ x.lines, '\n' ∉ l) ∧
      (∀ x ∈ asides ++ [.prose "Done.".toList], x.Complete) ∧
      (∀ x ∈ asides ++ [.prose "Done.".toList], x.Below (byteSize (s ++ ['\n']))) ∧
      source? (String.ofList (joinLines (asides.map Segment.text ++
          wrapped info s :: [.prose "Done.".toList].map Segment.text))) =
        some "fn main() \x7b\n  // ```rust\n\x7d\n" := by
  intro info s
  have filled : allBlank s = false := by decide
  have unclosed : ∀ l ∈ pieces s, isClosing l = false := by decide +kernel
  have plain : '\n' ∉ info := by decide
  have tagged : (⟨[], info, pieces s⟩ : Fence).isUsable = true := by decide +kernel
  have uncut : ∀ x ∈ asides ++ [.prose "Done.".toList], ∀ l ∈ x.lines, '\n' ∉ l := by
    decide +kernel
  have complete : ∀ x ∈ asides ++ [.prose "Done.".toList], x.Complete := by decide +kernel
  have below : ∀ x ∈ asides ++ [.prose "Done.".toList], x.Below (byteSize (s ++ ['\n'])) := by
    decide +kernel
  refine ⟨filled, unclosed, plain, tagged, uncut, complete, below, ?_⟩
  rw [source?_reply filled unclosed plain tagged uncut complete below]
  decide +kernel

end LintRepair.Reply
