import LintRepair.Proofs.Reply.Transport

/-!
Which block of a reply is taken, and what comes of it. Of the usable blocks the largest one is
taken, the last of several, whatever is in it. So a source in a usable block is refused if a blank
block is taken in its place, and for no other reason.
-/
namespace LintRepair.Reply
open Text

/-- The block that is taken: no usable block is larger, and none below it is as large. -/
structure Chosen (fs : List Fence) (f : Fence) : Prop where
  isUsable : f.isUsable = true
  largest : ∃ above below, fs = above ++ f :: below ∧
    (∀ g ∈ above, g.isUsable = true → byteSize g.dedented ≤ byteSize f.dedented) ∧
    ∀ g ∈ below, g.isUsable = true → byteSize g.dedented < byteSize f.dedented

variable {f g : Fence} {fs above below : List Fence} {s l indent : List Char} {reply : String}

theorem Chosen.mem (chosen : Chosen fs f) : f ∈ fs := by
  obtain ⟨above, below, rfl, -⟩ := chosen.largest
  simp

theorem exists_chosen (mem : f ∈ fs) (usable : f.isUsable = true) : ∃ g, Chosen fs g := by
  induction fs generalizing f with
  | nil => cases mem
  | cons h fs ih =>
    by_cases others : ∃ g ∈ fs, g.isUsable = true
    · obtain ⟨g, hg, usable_g⟩ := others
      obtain ⟨best, usable_best, above, below, rfl, not_larger, smaller⟩ := ih hg usable_g
      by_cases first : h.isUsable = true ∧ byteSize best.dedented < byteSize h.dedented
      · refine ⟨h, first.1, [], _, rfl, nofun, fun x hx usable_x => ?_⟩
        rcases List.mem_append.mp hx with hx | hx
        · exact Nat.lt_of_le_of_lt (not_larger x hx usable_x) first.2
        · rcases List.mem_cons.mp hx with rfl | hx
          · exact first.2
          · exact (smaller x hx usable_x).trans first.2
      · refine ⟨best, usable_best, h :: above, below, rfl, ?_, smaller⟩
        rw [List.forall_mem_cons]
        refine ⟨fun usable_h => ?_, not_larger⟩
        exact Nat.le_of_not_lt fun larger => first ⟨usable_h, larger⟩
    · have alone : ∀ g ∈ fs, g.isUsable = true → byteSize g.dedented < byteSize h.dedented :=
        fun g hg usable_g => absurd ⟨g, hg, usable_g⟩ others
      rcases List.mem_cons.mp mem with rfl | mem
      · exact ⟨f, usable, [], fs, rfl, nofun, alone⟩
      · exact absurd ⟨f, mem, usable⟩ others

theorem longest?_candidates {text : List Char} (chosen : Chosen (fences (pieces text)) f) :
    longest? (candidates text) = some f.dedented := by
  obtain ⟨usable, above, below, whole, not_larger, smaller⟩ := chosen
  have sizes {fs : List Fence} {P : Nat → Prop}
      (all : ∀ g ∈ fs, g.isUsable = true → P (byteSize g.dedented)) :
      ∀ x ∈ (fs.filter Fence.isUsable).map Fence.dedented, P (byteSize x) := by
    intro x hx
    obtain ⟨g, hg, rfl⟩ := List.mem_map.mp hx
    obtain ⟨hg, usable_g⟩ := List.mem_filter.mp hg
    exact all g hg usable_g
  rw [candidates, whole, List.filter_append, List.filter_cons_of_pos usable, List.map_append,
    List.map_cons]
  exact longest?_of_greatest (sizes (P := (· ≤ byteSize f.dedented)) not_larger)
    (sizes (P := (· < byteSize f.dedented)) smaller)

theorem allBlank_tidied (s : List Char) :
    allBlank (trimEnd (s.dropWhile isLineEnd)) = allBlank s := by
  cases blank : allBlank s with
  | true =>
    refine allBlank_of_subset (fun c hc => ?_) blank
    exact (List.dropWhile_sublist _).mem ((trimEnd_isPrefix _).mem hc)
  | false => exact allBlank_trimEnd (allBlank_dropWhile_isLineEnd blank)

/-- The block that is taken is tidied at both ends, and refused if it is blank. -/
theorem source?_of_chosen (chosen : Chosen (fences (pieces reply.toList)) f) :
    source? reply = if allBlank f.dedented then none
      else some (String.ofList (trimEnd (f.dedented.dropWhile isLineEnd) ++ ['\n'])) := by
  rw [source?, offered?, longest?_candidates chosen]
  simp only [allBlank_tidied]

theorem hasTicks_iff (cs : List Char) : hasTicks cs = true ↔ ticks <:+: cs := by
  induction cs with
  | nil => simp [hasTicks, ticks]
  | cons c cs ih =>
    rw [hasTicks, Bool.or_eq_true, ih, List.infix_cons_iff, Option.isSome_iff_exists]
    refine or_congr_left ⟨?_, ?_⟩
    · rintro ⟨rest, found⟩
      exact ⟨rest, (eq_append_of_after? found).symm⟩
    · rintro ⟨rest, whole⟩
      exact ⟨rest, after?_eq_some_iff.mpr whole.symm⟩

/-- Without a usable block the whole reply is the source, unless it has a fence in it. -/
theorem source?_of_unusable (unusable : ∀ f ∈ fences (pieces reply.toList), f.isUsable = false) :
    source? reply = if ticks <:+: reply.toList ∨ isBlankText reply = true then none
      else some (trimmed reply ++ "\n") := by
  have nothing : candidates reply.toList = [] := by
    rw [candidates, List.filter_eq_nil_iff.mpr fun f hf => by simp [unusable f hf]]
    rfl
  have ended : String.ofList (trim reply.toList ++ ['\n']) = trimmed reply ++ "\n" := by
    rw [String.ofList_append]
    rfl
  have marks := hasTicks_iff reply.toList
  rw [source?, offered?, nothing, isBlankText]
  by_cases marked : hasTicks reply.toList = true
  · simp [longest?, marked, marks.mp marked]
  · have unmarked : ¬ ticks <:+: reply.toList := fun inside => marked (marks.mpr inside)
    simp [longest?, marked, unmarked, allBlank_trim, ended]

theorem isBlank_of_isIndent {c : Char} (h : isIndent c = true) : isBlank c = true := by
  simp only [isIndent, Bool.or_eq_true, decide_eq_true_eq] at h
  rcases h with rfl | rfl <;> decide

theorem allBlank_unindent (indented : ∀ c ∈ indent, isIndent c = true) (l : List Char) :
    allBlank (unindent indent l) = allBlank l := by
  rw [unindent]
  cases found : after? indent l with
  | some rest =>
    have blank : allBlank indent = true :=
      allBlank_iff.mpr fun c hc => isBlank_of_isIndent (indented c hc)
    rw [eq_append_of_after? found, Bool.eq_iff_iff, allBlank_append]
    simp [blank]
  | none =>
    have blank : allBlank (l.takeWhile isIndent) = true :=
      allBlank_iff.mpr fun c hc => isBlank_of_isIndent (List.mem_takeWhile_imp hc)
    have whole : allBlank (l.takeWhile isIndent ++ l.dropWhile isIndent) = allBlank l := by
      rw [List.takeWhile_append_dropWhile]
    rw [← whole, Bool.eq_iff_iff, allBlank_append]
    simp [blank]

/-- Taking the indentation off a body leaves what is not white space. -/
theorem allBlank_dedented (mem : f ∈ fences (pieces reply.toList)) :
    allBlank f.dedented = allBlank f.text := by
  rw [Fence.dedented]
  split
  · rfl
  · have kept : allBlank ∘ unindent f.indent = allBlank :=
      funext (allBlank_unindent (isIndent_of_mem_fences mem))
    rw [allBlank_joinLines, List.all_map, kept, all_allBlank_lines]

/-- A block is taken in the place of a usable one only if it is larger, or as large and further
down. -/
theorem Chosen.eq_or_larger (chosen : Chosen (above ++ f :: below) g) (usable : f.isUsable = true) :
    g = f ∨ (g ∈ above ∧ byteSize f.dedented < byteSize g.dedented) ∨
      (g ∈ below ∧ byteSize f.dedented ≤ byteSize g.dedented) := by
  obtain ⟨-, before, after, whole, not_larger, smaller⟩ := chosen
  rcases List.append_eq_append_iff.mp whole with ⟨z, rfl, rest⟩ | ⟨z, rfl, rest⟩
  · cases z with
    | nil => exact .inl (List.cons.inj rest).1.symm
    | cons h z =>
      obtain ⟨rfl, rfl⟩ := List.cons.inj rest
      exact .inr (.inr ⟨by simp, not_larger f (by simp) usable⟩)
  · cases z with
    | nil => exact .inl (List.cons.inj rest).1
    | cons h z =>
      obtain ⟨rfl, rfl⟩ := List.cons.inj rest
      exact .inr (.inl ⟨by simp, smaller f (by simp) usable⟩)

/-- A reply with a usable block that is not blank is refused exactly if a blank one is taken in its
place. It is not refused if each blank one among the usable blocks is smaller, or as large and
further up, whatever other blocks it has. -/
theorem source?_eq_none_iff (whole : fences (pieces reply.toList) = above ++ f :: below)
    (usable : f.isUsable = true) (filled : allBlank f.text = false) :
    (source? reply = none ↔
        ∃ g, Chosen (fences (pieces reply.toList)) g ∧ allBlank g.text = true) ∧
      ((∀ g ∈ above, g.isUsable = true → allBlank g.text = true →
          byteSize g.dedented ≤ byteSize f.dedented) →
        (∀ g ∈ below, g.isUsable = true → allBlank g.text = true →
          byteSize g.dedented < byteSize f.dedented) →
        (source? reply).isSome = true) := by
  have mem : f ∈ fences (pieces reply.toList) := by simp [whole]
  have refused {g : Fence} (chosen : Chosen (fences (pieces reply.toList)) g) :
      source? reply = none ↔ allBlank g.text = true := by
    rw [source?_of_chosen chosen, allBlank_dedented chosen.mem]
    split <;> simp_all
  obtain ⟨g, chosen⟩ := exists_chosen mem usable
  refine ⟨⟨fun none => ⟨g, chosen, (refused chosen).mp none⟩, ?_⟩, fun not_larger smaller => ?_⟩
  · rintro ⟨h, chosen, blank⟩
    exact (refused chosen).mpr blank
  · rw [Option.isSome_iff_ne_none, ne_eq, refused chosen]
    intro blank
    have place := chosen
    rw [whole] at place
    rcases place.eq_or_larger usable with rfl | ⟨above, larger⟩ | ⟨below, as_large⟩
    · rw [blank] at filled
      cases filled
    · exact Nat.not_le_of_lt larger (not_larger g above chosen.isUsable blank)
    · exact Nat.not_lt_of_le as_large (smaller g below chosen.isUsable blank)

/-- A source among blank blocks, one of them as large as it is, and a long block of another
language. -/
def sourceAmongBlanks : String :=
  "  ```rs\n  \n  ```\n```\n \n```\n```rust\nx\n```\n```text\na long block\n```\n```\n\n```"

theorem source?_eq_none_iff_amongBlanks :
    let above : List Fence := [⟨"  ".toList, "rs".toList, ["  ".toList]⟩, ⟨[], [], [" ".toList]⟩]
    let f : Fence := ⟨[], "rust".toList, ["x".toList]⟩
    let below : List Fence := [⟨[], "text".toList, ["a long block".toList]⟩, ⟨[], [], [[]]⟩]
    fences (pieces sourceAmongBlanks.toList) = above ++ f :: below ∧
      f.isUsable = true ∧ allBlank f.text = false ∧
      (∀ g ∈ above, g.isUsable = true → allBlank g.text = true →
        byteSize g.dedented ≤ byteSize f.dedented) ∧
      (∀ g ∈ below, g.isUsable = true → allBlank g.text = true →
        byteSize g.dedented < byteSize f.dedented) ∧
      (source? sourceAmongBlanks).isSome = true := by
  intro above f below
  have whole : fences (pieces sourceAmongBlanks.toList) = above ++ f :: below := by decide +kernel
  have usable : f.isUsable = true := by decide +kernel
  have filled : allBlank f.text = false := by decide
  have not_larger : ∀ g ∈ above, g.isUsable = true → allBlank g.text = true →
      byteSize g.dedented ≤ byteSize f.dedented := by decide +kernel
  have smaller : ∀ g ∈ below, g.isUsable = true → allBlank g.text = true →
      byteSize g.dedented < byteSize f.dedented := by decide +kernel
  exact ⟨whole, usable, filled, not_larger, smaller,
    (source?_eq_none_iff whole usable filled).2 not_larger smaller⟩

/-- A blank block is taken in the place of a source that is shorter. -/
theorem source?_refused : ¬ ∀ reply : String,
    (∃ f ∈ fences (pieces reply.toList), f.isUsable = true ∧ allBlank f.text = false) →
      (source? reply).isSome = true := by
  intro all
  have some := all "```rust\nx\n```\n```rust\n\n\n\n```\n" (by decide +kernel)
  have none : source? "```rust\nx\n```\n```rust\n\n\n\n```\n" = none := by decide +kernel
  rw [none] at some
  cases some

end LintRepair.Reply
