import LintRepair.Proofs.Reply.Choice
import LintRepair.Proofs.Text.Search

/-!
Fenced blocks as what a search finds. The pattern of a block has a body that may run on behind
fences and is as short as it can be, and the search starts anew where a match ends. Still it finds
the blocks that the lines are read into from the top down: a line that opens a block has a fit
exactly if a bare fence stands below it, and the preferred one reaches the first of these.
-/
namespace LintRepair.Reply
open Text Text.Search

/-- A line with a bare fence. -/
def closingFence : List Item :=
  [.lineStart, .many isIndent] ++ literal ticks ++
    [.many isIndent, .maybe (· = '\r'), .lineEnd]

/-- The lines of a body, as few as there can be, and the fence behind them. -/
def closedBody : List Item := .named "body" (.few fun _ => true) :: closingFence

/-- An opening line and what it opens. -/
def fencedBlock : List Item :=
  [.lineStart, .named "indent" (.many isIndent)] ++ literal ticks ++
    [.named "info" (.many (· ≠ '\n')), .one (· = '\n')] ++ closedBody

def Fence.parts (f : Fence) : List (String × List Char) :=
  [("indent", f.indent), ("info", f.info), ("body", f.text)]

variable {l indent info behind : List Char} {below body after : List (List Char)}

theorem not_mem_ticks_underneath (below : List (List Char)) :
    ∀ c, (underneath below).head? = some c → c ∉ ticks := by
  intro c first
  rw [underneath_head? below c first]
  decide

/-- What is left of a line behind a bare fence is at most a carriage return. -/
theorem fits_returned (behind z : List Char) (below : List (List Char))
    (parts : List (String × List Char)) (uncut : '\n' ∉ z) :
    fits [.maybe (· = '\r'), .lineEnd] ⟨behind, z ++ underneath below, parts⟩ =
      if z = [] ∨ z = ['\r'] then [⟨z.reverse ++ behind, underneath below, parts⟩] else [] := by
  have ended : isBoundary (underneath below) = true := by
    cases below <;> simp [isBoundary, underneath]
  rcases z with _ | ⟨c, z⟩
  · cases below <;> simp [fits, Item.fits, Reading.next?, isBoundary, underneath]
  · have inner : c ≠ '\n' := by
      rintro rfl
      exact uncut List.mem_cons_self
    by_cases hc : c = '\r'
    · subst hc
      cases z with
      | nil => simp [fits, Item.fits, Reading.next?, ended]; simp [isBoundary]
      | cons d z =>
        have inner : d ≠ '\n' := by
          rintro rfl
          exact uncut (by simp)
        simp [fits, Item.fits, Reading.next?, isBoundary, inner]
    · simp [fits, Item.fits, Reading.next?, isBoundary, inner, hc]

theorem refuses_returned : Refuses [.maybe (· = '\r'), .lineEnd] isIndent := by
  rintro ⟨behind, ahead, parts⟩ c first hc
  obtain ⟨ahead, rfl⟩ := List.head?_eq_some_iff.mp first
  have other : c ≠ '\r' ∧ c ≠ '\n' := by
    constructor <;> (rintro rfl; revert hc; decide)
  simp [fits, Item.fits, Reading.next?, isBoundary, other]

theorem isClosing_eq (l : List Char) : isClosing l =
    (after? ticks (l.dropWhile isIndent)).any fun rest =>
      rest.dropWhile isIndent = [] || rest.dropWhile isIndent = ['\r'] := by
  unfold isClosing
  cases after? ticks (l.dropWhile isIndent) with
  | none => rfl
  | some rest =>
    simp only [Option.any_some]
    rcases rest.dropWhile isIndent with _ | ⟨c, _ | ⟨d, z⟩⟩
    · rfl
    · by_cases hc : c = '\r' <;> simp [hc]
    · simp

theorem refuses_ticks (items : List Item) : Refuses (literal ticks ++ items) isIndent :=
  refuses_literal (by decide) _ items

theorem eq_append_of_ticks {rest : List Char}
    (fence : after? ticks (l.dropWhile isIndent) = some rest) :
    l.takeWhile isIndent ++ (ticks ++ rest) = l := by
  rw [← eq_append_of_after? fence, List.takeWhile_append_dropWhile]

theorem reverse_eq_of_ticks {rest : List Char}
    (fence : after? ticks (l.dropWhile isIndent) = some rest) :
    l.reverse = rest.reverse ++ (ticks.reverse ++ (l.takeWhile isIndent).reverse) := by
  conv_lhs => rw [← eq_append_of_ticks fence]
  rw [List.reverse_append, List.reverse_append, List.append_assoc]

theorem mem_of_mem_behind_ticks {rest : List Char} {c : Char}
    (fence : after? ticks (l.dropWhile isIndent) = some rest) (mem : c ∈ rest) : c ∈ l := by
  rw [← eq_append_of_ticks fence]
  simp [mem]

/-- In front of a line a bare fence is found exactly if the line is one. -/
theorem fits_closingFence (uncut : '\n' ∉ l) (behind : List Char) (below : List (List Char))
    (parts : List (String × List Char)) :
    fits closingFence ⟨behind, l ++ underneath below, parts⟩ =
      if isBoundary behind && isClosing l then
        [⟨l.reverse ++ behind, underneath below, parts⟩] else [] := by
  have items : closingFence = .lineStart :: .many isIndent ::
      (literal ticks ++ [.many isIndent, .maybe (· = '\r'), .lineEnd]) := rfl
  have feed := stops_underneath (p := isIndent) (by decide) below
  rw [items, fits_lineStart]
  by_cases start : isBoundary behind = true
  · rw [if_pos start, start, Bool.true_and, fits_many (refuses_ticks _)]
    simp only [takeWhile_append_of_head? feed, dropWhile_append_of_head? feed, fits_literal,
      after?_append_of_head? (not_mem_ticks_underneath below), isClosing_eq]
    cases fence : after? ticks (l.dropWhile isIndent) with
    | none => rfl
    | some rest =>
      have inner : '\n' ∉ rest.dropWhile isIndent := fun mem =>
        uncut (mem_of_mem_behind_ticks fence ((List.dropWhile_sublist isIndent).mem mem))
      have whole : rest.reverse =
          (rest.dropWhile isIndent).reverse ++ (rest.takeWhile isIndent).reverse := by
        rw [← List.reverse_append, List.takeWhile_append_dropWhile]
      rw [Option.map_some, Option.elim_some, Option.any_some, fits_many refuses_returned]
      simp only [takeWhile_append_of_head? feed, dropWhile_append_of_head? feed,
        fits_returned _ _ _ _ inner, reverse_eq_of_ticks fence, whole, List.append_assoc,
        Bool.or_eq_true, decide_eq_true_eq]
  · rw [if_neg start, eq_false_of_ne_true start]
    rfl

/-- Behind an opening line the body starts. Another line has no fit. -/
theorem fits_fencedBlock (uncut : '\n' ∉ l) (behind : List Char) (below : List (List Char)) :
    fits fencedBlock ⟨behind, l ++ underneath below, []⟩ =
      if isBoundary behind then
        (opening? l).elim [] fun o =>
          fits (.one (· = '\n') :: closedBody)
            ⟨l.reverse ++ behind, underneath below, [("indent", o.1), ("info", o.2)]⟩
      else [] := by
  have items : fencedBlock = .lineStart :: .named "indent" (.many isIndent) ::
      (literal ticks ++ .named "info" (.many (· ≠ '\n')) :: .one (· = '\n') :: closedBody) := rfl
  have indents := stops_underneath (p := isIndent) (by decide) below
  have infos := stops_underneath (p := fun c => decide (c ≠ '\n')) (by decide) below
  have stop : Refuses (.one (· = '\n') :: closedBody) (fun c => decide (c ≠ '\n')) :=
    refuses_one (by simp)
  rw [items, fits_lineStart]
  by_cases start : isBoundary behind = true
  · rw [if_pos start, if_pos start, fits_named_many (refuses_ticks _)]
    simp only [takeWhile_append_of_head? indents, dropWhile_append_of_head? indents, fits_literal,
      after?_append_of_head? (not_mem_ticks_underneath below), opening?]
    cases fence : after? ticks (l.dropWhile isIndent) with
    | none => rfl
    | some info =>
      have inner : ∀ c ∈ info, decide (c ≠ '\n') = true := by
        intro c mem
        rw [decide_eq_true_eq]
        rintro rfl
        exact uncut (mem_of_mem_behind_ticks fence mem)
      have taken : info.takeWhile (fun c => decide (c ≠ '\n')) = info :=
        List.takeWhile_eq_self_iff.mpr inner
      have left : info.dropWhile (fun c => decide (c ≠ '\n')) = [] :=
        List.dropWhile_eq_nil_iff.mpr inner
      rw [Option.map_some, Option.map_some, Option.elim_some, Option.elim_some,
        fits_named_many stop]
      simp only [takeWhile_append_of_head? infos, dropWhile_append_of_head? infos, taken, left,
        reverse_eq_of_ticks fence, List.append_assoc, List.nil_append, List.cons_append]
  · rw [if_neg start, if_neg start]

theorem fits_closedBody (r : Reading) : fits closedBody r =
    (r.run fun _ => true).flatMap fun t => fits closingFence (r.naming "body" t) := by
  rw [closedBody, fits, Item.fits, Item.fits, List.flatMap_map]

theorem onlyAtStarts_closed (r : Reading) :
    OnlyAtStarts fun t => fits closingFence (r.naming "body" t) := by
  intro t inside
  exact onlyAtStarts_fits (r.naming "body" t) inside

theorem flatMap_lineStarts_unclosed {r : Reading} {ls : List (List Char)}
    (uncut : ∀ l ∈ ls, '\n' ∉ l) (unclosed : ∀ l ∈ ls, isClosing l = false)
    (parts : List (String × List Char)) (behind : List Char) :
    (lineStarts parts behind ls).flatMap (fun t => fits closingFence (r.naming "body" t)) = [] := by
  induction ls generalizing behind with
  | nil => rfl
  | cons l ls ih =>
    rw [List.forall_mem_cons] at uncut unclosed
    rw [lineStarts, List.flatMap_cons, ih uncut.2 unclosed.2, Reading.naming,
      fits_closingFence uncut.1, unclosed.1]
    simp

theorem head?_flatMap_lineStarts {r : Reading} {closer front : List Char}
    (uncut : ∀ l ∈ body ++ closer :: after, '\n' ∉ l)
    (inner : ∀ l ∈ body, isClosing l = false) (closes : isClosing closer = true)
    (start : isBoundary behind = true)
    (whole : r.ahead = front ++ joinLines (body ++ closer :: after)) :
    ∃ b, ((lineStarts r.parts behind (body ++ closer :: after)).flatMap
        fun t => fits closingFence (r.naming "body" t)).head? =
      some ⟨closer.reverse ++ b, underneath after,
        r.parts ++ [("body", front ++ body.flatMap (· ++ ['\n']))]⟩ := by
  induction body generalizing behind front with
  | nil =>
    rw [List.nil_append, joinLines_cons] at whole
    have named : r.naming "body" ⟨behind, closer ++ underneath after, r.parts⟩ =
        ⟨behind, closer ++ underneath after, r.parts ++ [("body", front)]⟩ := by
      rw [Reading.naming, upTo_of_append whole]
    refine ⟨behind, ?_⟩
    rw [List.nil_append, lineStarts, List.flatMap_cons, named,
      fits_closingFence (uncut closer (by simp)), start, closes]
    simp
  | cons l body ih =>
    rw [List.cons_append, List.forall_mem_cons] at uncut
    rw [List.forall_mem_cons] at inner
    have ne : body ++ closer :: after ≠ [] := by simp
    have further : r.ahead = (front ++ (l ++ ['\n'])) ++ joinLines (body ++ closer :: after) := by
      rw [whole, List.cons_append, joinLines_cons, underneath_eq ne]
      simp
    have below : isBoundary ('\n' :: (l.reverse ++ behind)) = true := rfl
    obtain ⟨b, found⟩ := ih uncut.2 inner.2 below further
    refine ⟨b, ?_⟩
    rw [List.cons_append, lineStarts, List.flatMap_cons, Reading.naming,
      fits_closingFence uncut.1, inner.1, Bool.and_false, if_neg Bool.false_ne_true,
      List.nil_append, found, List.flatMap_cons, List.append_assoc]

/-- What the search finds from the start of a line on. -/
def atLineStarts (behind : List Char) (ls : List (List Char)) : Option Reading :=
  ((lineStarts [] behind ls).flatMap (fits fencedBlock)).head?

theorem atLineStarts_of_unopened (uncut : '\n' ∉ l) (unopened : opening? l = none) :
    atLineStarts behind (l :: below) = atLineStarts ('\n' :: (l.reverse ++ behind)) below := by
  rw [atLineStarts, lineStarts, List.flatMap_cons, fits_fencedBlock uncut, unopened]
  simp [atLineStarts]

/-- A line that opens a block has the fits of the bodies below it. -/
theorem fits_fencedBlock_of_opened (uncut : ∀ m ∈ l :: below, '\n' ∉ m)
    (start : isBoundary behind = true) (opens : opening? l = some (indent, info)) :
    ∃ r : Reading, r.behind = '\n' :: (l.reverse ++ behind) ∧ r.ahead = joinLines below ∧
      r.parts = [("indent", indent), ("info", info)] ∧
      fits fencedBlock ⟨behind, l ++ underneath below, []⟩ =
        (lineStarts r.parts r.behind below).flatMap
          fun t => fits closingFence (r.naming "body" t) := by
  obtain ⟨first, others⟩ := List.forall_mem_cons.mp uncut
  refine ⟨⟨'\n' :: (l.reverse ++ behind), joinLines below,
    [("indent", indent), ("info", info)]⟩, rfl, rfl, rfl, ?_⟩
  rw [fits_fencedBlock first, if_pos start, opens, Option.elim_some]
  cases below with
  | nil => rw [underneath, List.flatMap_nil, fits_one_nil, lineStarts, List.flatMap_nil]
  | cons m more =>
    have only := onlyAtStarts_closed ⟨'\n' :: (l.reverse ++ behind), joinLines (m :: more),
      [("indent", indent), ("info", info)]⟩
    rw [underneath_eq (List.cons_ne_nil m more), fits_one_cons, decide_eq_true rfl, if_pos rfl,
      fits_closedBody, Reading.run, ← flatMap_through only others, ← joinLines_cons]

theorem fits_fencedBlock_of_unclosed (uncut : ∀ m ∈ l :: below, '\n' ∉ m)
    (unclosed : ∀ m ∈ below, isClosing m = false) (behind : List Char) :
    fits fencedBlock ⟨behind, l ++ underneath below, []⟩ = [] := by
  obtain ⟨first, others⟩ := List.forall_mem_cons.mp uncut
  by_cases start : isBoundary behind = true
  · cases opens : opening? l with
    | none => rw [fits_fencedBlock first, if_pos start, opens, Option.elim_none]
    | some o =>
      obtain ⟨r, -, -, -, bodies⟩ := fits_fencedBlock_of_opened uncut start opens
      rw [bodies, flatMap_lineStarts_unclosed others unclosed]
  · rw [fits_fencedBlock first, if_neg start]

/-- Where no line below closes a block, nothing is found. -/
theorem atLineStarts_of_unclosed (uncut : ∀ m ∈ l :: below, '\n' ∉ m)
    (unclosed : ∀ m ∈ below, isClosing m = false) (behind : List Char) :
    atLineStarts behind (l :: below) = none := by
  rw [atLineStarts, List.head?_eq_none_iff]
  induction below generalizing l behind with
  | nil => rw [lineStarts, List.flatMap_cons, fits_fencedBlock_of_unclosed uncut unclosed]; rfl
  | cons m more ih =>
    rw [lineStarts, List.flatMap_cons, fits_fencedBlock_of_unclosed uncut unclosed, List.nil_append]
    exact ih (List.forall_mem_cons.mp uncut).2 (List.forall_mem_cons.mp unclosed).2 _

theorem exists_atLineStarts_of_closed {closer : List Char}
    (uncut : ∀ m ∈ l :: (body ++ closer :: after), '\n' ∉ m) (start : isBoundary behind = true)
    (opens : opening? l = some (indent, info)) (inner : ∀ m ∈ body, isClosing m = false)
    (closes : isClosing closer = true) :
    ∃ b, atLineStarts behind (l :: (body ++ closer :: after)) =
      some ⟨closer.reverse ++ b, underneath after, (⟨indent, info, body⟩ : Fence).parts⟩ := by
  obtain ⟨r, behind_eq, ahead, parts, bodies⟩ := fits_fencedBlock_of_opened uncut start opens
  have next : isBoundary r.behind = true := by rw [behind_eq]; rfl
  have whole : r.ahead = [] ++ joinLines (body ++ closer :: after) := by rw [ahead, List.nil_append]
  obtain ⟨b, found⟩ :=
    head?_flatMap_lineStarts (List.forall_mem_cons.mp uncut).2 inner closes next whole
  refine ⟨b, ?_⟩
  rw [atLineStarts, lineStarts, List.flatMap_cons, List.head?_append, bodies, found, parts,
    Option.some_or]
  rfl

theorem first?_joinLines (uncut : ∀ m ∈ l :: below, '\n' ∉ m) (behind : List Char)
    (parts : List (String × List Char)) :
    first? fencedBlock ⟨behind, joinLines (l :: below), parts⟩ =
      atLineStarts behind (l :: below) := by
  have only : OnlyAtStarts (fits fencedBlock) := onlyAtStarts_fits
  rw [first?_eq_head?, joinLines_cons, flatMap_through only uncut, atLineStarts]

/-- From the end of a line the search goes on at the next one. -/
theorem first?_underneath (uncut : ∀ m ∈ below, '\n' ∉ m) (inside : isBoundary behind = false)
    (parts : List (String × List Char)) :
    first? fencedBlock ⟨behind, underneath below, parts⟩ = atLineStarts ('\n' :: behind) below := by
  have empty : ∀ m ∈ [] :: below, '\n' ∉ m := List.forall_mem_cons.mpr ⟨List.not_mem_nil, uncut⟩
  have here := first?_joinLines empty behind parts
  rw [joinLines_cons, List.nil_append] at here
  rw [here, atLineStarts, lineStarts, List.flatMap_cons, fits_fencedBlock List.not_mem_nil, inside]
  rfl

theorem isClosing_nil : isClosing [] = false := by decide

theorem isBoundary_closer {closer : List Char} (uncut : '\n' ∉ closer)
    (closes : isClosing closer = true) (b : List Char) :
    isBoundary (closer.reverse ++ b) = false := by
  obtain ⟨front, c, rfl⟩ : ∃ front c, closer = front ++ [c] := by
    rcases List.eq_nil_or_concat closer with rfl | ⟨front, c, rfl⟩
    · rw [isClosing_nil] at closes
      cases closes
    · exact ⟨front, c, List.concat_eq_append⟩
  have other : c ≠ '\n' := by
    rintro rfl
    simp at uncut
  simp [isBoundary, other]

/-- The search finds the blocks of the lines below, and nothing else. -/
theorem finds_fences (ls : List (List Char)) (uncut : ∀ l ∈ ls, '\n' ∉ l)
    (start : isBoundary behind = true) {r : Reading}
    (same : first? fencedBlock r = atLineStarts behind ls) :
    Finds fencedBlock r ((fences ls).map Fence.parts) := by
  induction ls using fences_induction generalizing behind r with
  | nil =>
    rw [fences]
    exact .nothing same
  | passed l below unopened ih =>
    obtain ⟨first, others⟩ := List.forall_mem_cons.mp uncut
    rw [fences_cons_of_unopened unopened]
    exact ih others rfl (same.trans (atLineStarts_of_unopened first unopened))
  | block l indent info body closer after opens inner closes ih =>
    obtain ⟨b, found⟩ := exists_atLineStarts_of_closed uncut start opens inner closes
    have uncut_after : ∀ m ∈ after, '\n' ∉ m := fun m hm => uncut m (by simp [hm])
    have inside : isBoundary (closer.reverse ++ b) = false :=
      isBoundary_closer (uncut closer (by simp)) closes b
    rw [fences_cons_of_closed opens inner closes, List.map_cons]
    exact .another (same.trans found) (ih uncut_after rfl (first?_underneath uncut_after inside _))
  | unclosed l indent info below opens unclosed =>
    rw [fences_cons_of_unclosed opens unclosed]
    exact .nothing (same.trans (atLineStarts_of_unclosed uncut unclosed behind))

theorem finds_iff (reply : List Char) (found : List (List (String × List Char))) :
    Finds fencedBlock ⟨[], reply, []⟩ found ↔ found = (fences (pieces reply)).map Fence.parts := by
  have uncut : ∀ l ∈ pieces reply, '\n' ∉ l := fun _ => not_mem_of_mem_split
  have all : Finds fencedBlock ⟨[], reply, []⟩ ((fences (pieces reply)).map Fence.parts) := by
    obtain ⟨l, below, lines⟩ := List.exists_cons_of_ne_nil (pieces_ne_nil reply)
    have here := first?_joinLines (lines ▸ uncut) [] []
    rw [← lines, joinLines_pieces] at here
    exact finds_fences _ uncut rfl here
  exact ⟨fun h => h.unique all, fun h => h ▸ all⟩

/-- The search finds the blocks that the lines are read into, and these settle what the source is:
the largest usable block, the last of several, tidied and ended by a line feed, if it is not blank.
Without a usable block it is the whole reply, if that has no three backticks and is not blank. -/
theorem source?_of_found (reply : String) :
    (∀ found, Finds fencedBlock ⟨[], reply.toList, []⟩ found ↔
        found = (fences (pieces reply.toList)).map Fence.parts) ∧
      (∀ f, Chosen (fences (pieces reply.toList)) f → source? reply =
        if allBlank f.dedented then none
        else some (String.ofList (trimEnd (f.dedented.dropWhile isLineEnd) ++ ['\n']))) ∧
      ((∃ f ∈ fences (pieces reply.toList), f.isUsable = true) →
        ∃ f, Chosen (fences (pieces reply.toList)) f) ∧
      ((∀ f ∈ fences (pieces reply.toList), f.isUsable = false) → source? reply =
        if ticks <:+: reply.toList ∨ isBlankText reply = true then none
        else some (trimmed reply ++ "\n")) := by
  refine ⟨finds_iff reply.toList, fun f chosen => source?_of_chosen chosen, ?_,
    fun unusable => source?_of_unusable unusable⟩
  rintro ⟨f, mem, usable⟩
  exact exists_chosen mem usable

/-- An empty block, one whose body holds a fence of four backticks, and an opening line that nothing
closes. -/
def oddFences : String := "```\n```\n ```rs\n ````\n x\n\t``` \r\n```rust\ny"

theorem source?_of_found_odd :
    Finds fencedBlock ⟨[], oddFences.toList, []⟩
        [[("indent", []), ("info", []), ("body", [])],
          [("indent", " ".toList), ("info", "rs".toList), ("body", " ````\n x\n".toList)]] ∧
      (∃ f ∈ fences (pieces oddFences.toList), f.isUsable = true) ∧
      (∃ f, Chosen (fences (pieces oddFences.toList)) f) ∧ source? oddFences = some "````\nx\n" := by
  have found := ((source?_of_found oddFences).1 _).mpr rfl
  have blocks : (fences (pieces oddFences.toList)).map Fence.parts =
      [[("indent", []), ("info", []), ("body", [])],
        [("indent", " ".toList), ("info", "rs".toList), ("body", " ````\n x\n".toList)]] := by
    decide +kernel
  have usable : ∃ f ∈ fences (pieces oddFences.toList), f.isUsable = true := by decide +kernel
  have taken := (source?_of_found oddFences).2.2.1 usable
  rw [blocks] at found
  exact ⟨found, usable, taken, by decide +kernel⟩

end LintRepair.Reply
