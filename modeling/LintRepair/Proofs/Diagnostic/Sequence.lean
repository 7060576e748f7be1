import LintRepair.Proofs.Diagnostic.Block

/-!
Reading lines with others behind them. A block that is closed by another line is read the same
whatever follows; only a block that is still open at the end goes on in the lines behind. So reports
that stand apart are read one by one when they are written one behind the other.
-/
namespace LintRepair.Diagnostic
open Text

/-- A header with a title and a location line below it: a block, if a body follows. -/
structure Opening (line location : List Char) (h : Header) : Prop where
  header : header? line = some h
  title : trim h.title ≠ []
  location : isLocation location = true

/-- The diagnostic of a block by its parts. -/
def ofParts (h : Header) (location : List Char) (body : List (List Char)) : Diagnostic where
  code := String.ofList h.code
  title := String.ofList (trim h.title)
  location := String.ofList (trim location)
  context := String.ofList (trim (joinLines body))

variable {ls ms below body after : List (List Char)} {line location l : List Char} {h : Header}

theorem ofLines_nil : ofLines [] = [] := by rw [ofLines]

theorem ofLines_cons_of_unopened
    (unopened : ∀ location, below.head? = some location → ∀ h, ¬ Opening line location h) :
    ofLines (line :: below) = ofLines below := by
  have none : block? line below = none := by
    unfold block?
    split
    next h location more header =>
      apply if_neg
      intro good
      simp only [Bool.and_eq_true, Bool.not_eq_true', List.isEmpty_eq_false_iff] at good
      exact unopened location rfl h ⟨header, good.1.2, good.1.1⟩
    next => rfl
  rw [ofLines, none]

theorem ofLines_cons_of_bodiless
    (bodiless : ∀ l, (below.drop 1).head? = some l → isBody l = false) :
    ofLines (line :: below) = ofLines below := by
  have none : block? line below = none := by
    unfold block?
    split
    next h location more header =>
      have nothing : more.takeWhile isBody = [] := by
        cases more with
        | nil => rfl
        | cons l more => exact List.takeWhile_cons_of_neg (by simp [bodiless l rfl])
      have blank : trim (joinLines []) = [] := trim_of_allBlank allBlank_nil
      simp [nothing, blank]
    next => rfl
  rw [ofLines, none]

theorem ofLines_cons_of_not_location (h : ∀ l, below.head? = some l → isLocation l = false) :
    ofLines (line :: below) = ofLines below := by
  apply ofLines_cons_of_unopened
  intro location first header opening
  have loc := opening.location
  rw [h location first] at loc
  cases loc

theorem ofLines_cons_nil (below : List (List Char)) : ofLines ([] :: below) = ofLines below := by
  apply ofLines_cons_of_unopened
  intro location _ header opening
  cases opening.header

theorem ofLines_of_short (short : ls.length ≤ 2) : ofLines ls = [] := by
  induction ls with
  | nil => exact ofLines_nil
  | cons line below ih =>
    have none_left : below.drop 1 = [] := by
      apply List.drop_eq_nil_of_le
      simpa using short
    rw [ofLines_cons_of_bodiless (by simp [none_left])]
    exact ih (Nat.le_of_succ_le short)

theorem takeWhile_isBody_append (bodies : ∀ l ∈ body, isBody l = true)
    (closed : ∀ l, after.head? = some l → isBody l = false) :
    (body ++ after).takeWhile isBody = body := by
  rw [takeWhile_append_of_head? closed, List.takeWhile_eq_self_iff.mpr bodies]

theorem dropWhile_isBody_append (bodies : ∀ l ∈ body, isBody l = true)
    (closed : ∀ l, after.head? = some l → isBody l = false) :
    (body ++ after).dropWhile isBody = after := by
  rw [dropWhile_append_of_head? closed, List.dropWhile_eq_nil_iff.mpr bodies, List.nil_append]

theorem Opening.ofLines_block (opening : Opening line location h)
    (bodies : ∀ l ∈ body, isBody l = true) (ne : body ≠ [])
    (closed : ∀ l, after.head? = some l → isBody l = false) :
    ofLines (line :: location :: (body ++ after)) = ofParts h location body :: ofLines after := by
  have context := trim_joinLines_ne_nil bodies ne
  rw [ofLines]
  simp only [block?, opening.header, takeWhile_isBody_append bodies closed, List.drop_one,
    List.tail_cons, dropWhile_isBody_append bodies closed]
  rw [if_pos (by simp [opening.location, opening.title, context])]
  rfl

/-- Induction along the reading of some lines: a line is passed over or a closed block is read,
whatever lines `ms` may follow, until at most a line or the beginning of a block is left. -/
theorem reading_induction {motive : List (List Char) → Prop} (ls : List (List Char))
    (nil : motive []) (one : ∀ line, motive [line])
    (passed : ∀ line below, (∀ ms, ofLines (line :: (below ++ ms)) = ofLines (below ++ ms)) →
      motive below → motive (line :: below))
    (closed : ∀ d block rest, (∀ ms, ofLines (block ++ rest ++ ms) = d :: ofLines (rest ++ ms)) →
      motive rest → motive (block ++ rest))
    (unfinished : ∀ line location body h, Opening line location h →
      (∀ l ∈ body, isBody l = true) → motive (line :: location :: body)) :
    motive ls := by
  induction size : ls.length using Nat.strongRecOn generalizing ls with
  | ind n ih =>
    rcases ls with _ | ⟨line, _ | ⟨location, rest⟩⟩
    · exact nil
    · exact one line
    subst size
    by_cases opened : ∃ h, Opening line location h
    · obtain ⟨h, opening⟩ := opened
      have bodies : ∀ l ∈ rest.takeWhile isBody, isBody l = true := fun _ => List.mem_takeWhile_imp
      have whole : rest.takeWhile isBody ++ rest.dropWhile isBody = rest :=
        List.takeWhile_append_dropWhile
      cases below : rest.dropWhile isBody with
      | nil =>
        rw [below, List.append_nil] at whole
        rw [← whole]
        exact unfinished line location _ h opening bodies
      | cons l after =>
        have stop : isBody l = false := by
          have := List.head?_dropWhile_not isBody rest
          simpa [below] using this
        have shut (ms : List (List Char)) :
            ∀ x, (l :: after ++ ms).head? = some x → isBody x = false := by
          intro x hx
          obtain rfl : l = x := by simpa using hx
          exact stop
        rw [below] at whole
        by_cases ne : rest.takeWhile isBody = []
        · apply passed
          · intro ms
            apply ofLines_cons_of_bodiless
            intro x hx
            rw [← whole, ne] at hx
            exact shut ms x (by simpa using hx)
          · exact ih _ (by simp) _ rfl
        · have read := closed (ofParts h location (rest.takeWhile isBody))
            (line :: location :: rest.takeWhile isBody) (l :: after)
          simp only [List.cons_append, whole] at read
          apply read
          · intro ms
            have block := opening.ofLines_block bodies ne (shut ms)
            rw [← List.append_assoc, whole] at block
            exact block
          · refine ih _ ?_ _ rfl
            rw [← whole]
            simp
            omega
    · apply passed
      · intro ms
        apply ofLines_cons_of_unopened
        intro x hx h opening
        obtain rfl : location = x := by simpa using hx
        exact opened ⟨h, opening⟩
      · exact ih _ (by simp) _ rfl

theorem ofLines_append
    (apart : ∀ l, ms.head? = some l → isLocation l = false ∧ isBody l = false) :
    ofLines (ls ++ ms) = ofLines ls ++ ofLines ms := by
  induction ls using reading_induction with
  | nil => rw [ofLines_nil, List.nil_append, List.nil_append]
  | one line =>
    have alone : ofLines [line] = [] := ofLines_of_short (by simp)
    rw [List.singleton_append, ofLines_cons_of_not_location fun l hl => (apart l hl).1, alone,
      List.nil_append]
  | passed line below same ih =>
    have alone := same []
    rw [List.append_nil] at alone
    rw [List.cons_append, same, alone, ih]
  | closed d block rest read ih =>
    have alone := read []
    rw [List.append_nil, List.append_nil] at alone
    rw [read, alone, ih, List.cons_append]
  | unfinished line location body h opening bodies =>
    by_cases ne : body = []
    · subst ne
      have alone : ofLines [line, location] = [] := ofLines_of_short (by simp)
      have bodiless : ∀ l, ((location :: ms).drop 1).head? = some l → isBody l = false := by
        intro l hl
        exact (apart l hl).2
      rw [List.cons_append, List.singleton_append, ofLines_cons_of_bodiless bodiless,
        ofLines_cons_of_not_location fun l hl => (apart l hl).1, alone, List.nil_append]
    · have alone :
          ofLines (line :: location :: (body ++ [])) = ofParts h location body :: ofLines [] :=
        opening.ofLines_block bodies ne (by simp)
      rw [List.append_nil, ofLines_nil] at alone
      rw [List.cons_append, List.cons_append,
        opening.ofLines_block bodies ne fun l hl => (apart l hl).2, alone, List.singleton_append]

/-- Nothing, or a text that ends with a line feed. -/
def Ended (s : String) : Prop := s = "" ∨ s.toList.getLast? = some '\n'

instance (s : String) : Decidable (Ended s) := inferInstanceAs (Decidable (_ ∨ _))

/-- The first line, if there is one, is no location line and no body line. -/
def StandsApart (s : String) : Prop :=
  ∀ l ∈ (lines s.toList).head?, isLocation l = false ∧ isBody l = false

instance (s : String) : Decidable (StandsApart s) :=
  inferInstanceAs
    (Decidable (∀ l ∈ (lines s.toList).head?, isLocation l = false ∧ isBody l = false))

variable {a b : String}

theorem lines_append_of_ended (ended : Ended a) (b : String) :
    lines (a ++ b).toList = lines a.toList ++ lines b.toList := by
  rcases ended with rfl | last
  · simp
  · obtain ⟨front, whole⟩ := List.getLast?_eq_some_iff.mp last
    have alone := lines_append_lineFeed front []
    rw [lines_nil, List.append_nil] at alone
    rw [String.toList_append, whole, alone, List.append_assoc, List.singleton_append,
      lines_append_lineFeed]

theorem extract_append (ended : Ended a) (apart : StandsApart b) :
    extract (a ++ b) = extract a ++ extract b := by
  unfold extract
  rw [lines_append_of_ended ended, ofLines_append apart]

/-- Texts that stand apart stand apart when they are written one behind the other. -/
theorem standsApart_join {segments : List String}
    (all : ∀ s ∈ segments, Ended s ∧ StandsApart s) : StandsApart (String.join segments) := by
  induction segments with
  | nil => exact nofun
  | cons s segments ih =>
    obtain ⟨ended, apart⟩ := all s List.mem_cons_self
    have rest := ih fun t ht => all t (List.mem_cons_of_mem s ht)
    intro l hl
    rw [String.join_cons, lines_append_of_ended ended] at hl
    cases first : lines s.toList with
    | nil =>
      rw [first, List.nil_append] at hl
      exact rest l hl
    | cons k ks =>
      rw [first] at hl
      apply apart
      rw [first]
      exact hl

/-- Behind a text that ends its last line, a report that stands apart is read as if it were alone.
So reports that stand apart and end their last lines are read one by one, in their order. -/
theorem extract_segments :
    (∀ a b, Ended a → StandsApart b → extract (a ++ b) = extract a ++ extract b) ∧
      ∀ segments : List String, (∀ s ∈ segments, Ended s ∧ StandsApart s) →
        extract (String.join segments) = segments.flatMap extract := by
  constructor
  · intro a b ended apart
    exact extract_append ended apart
  · intro segments all
    induction segments with
    | nil => exact ofLines_nil
    | cons s segments ih =>
      obtain ⟨ended, -⟩ := all s List.mem_cons_self
      have others : ∀ t ∈ segments, Ended t ∧ StandsApart t := by
        intro t ht
        exact all t (List.mem_cons_of_mem s ht)
      rw [String.join_cons, extract_append ended (standsApart_join others), ih others,
        List.flatMap_cons]

/-- Two coded blocks, one without a code between them and other output around. -/
def mixture : List String :=
  ["    Checking demo\n", "error[E0308]: mismatched\n--> a:1:14\n|\n",
    "error: unclosed delimiter\n --> a:1:2\n1 | (\n", "\nwarning: unused\n",
    "error[E0425]: cannot find\n--> b:2:1\n  = note: y\r\n"]

theorem extract_segments_mixture :
    (∀ s ∈ mixture, Ended s ∧ StandsApart s) ∧
      extract (String.join mixture) = mixture.flatMap extract ∧
      (mixture.flatMap extract).map code = ["E0308", "E0425"] := by
  have all : ∀ s ∈ mixture, Ended s ∧ StandsApart s := by decide +kernel
  exact ⟨all, extract_segments.2 mixture all, by decide +kernel⟩

end LintRepair.Diagnostic
