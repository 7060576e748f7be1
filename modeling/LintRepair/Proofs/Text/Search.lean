import LintRepair.Proofs.Text.Lines

/-!
Search patterns: characters of a class, runs of a class, and the two ends of a line, one behind the
other. A pattern fits a place in several ways, which have an order of preference. A search takes the
first of them at the leftmost place that has any, and goes on where that one ends. A pattern that
fits at starts of lines only needs to be tried there.
-/
namespace LintRepair.Text.Search

/-- How far a text is read: what lies behind, the last character first, what lies ahead, and the
parts that have been given a name. -/
structure Reading where
  behind : List Char
  ahead : List Char
  parts : List (String × List Char) := []
deriving DecidableEq, Repr

/-- An item of a pattern. -/
inductive Item where
  /-- The start of the text, or the place behind a line feed. -/
  | lineStart
  /-- The end of the text, or the place before a line feed. -/
  | lineEnd
  | one (p : Char → Bool)
  /-- A character of the class, or none if the rest of the pattern does not fit behind it. -/
  | maybe (p : Char → Bool)
  /-- A run of the class, as long as the rest of the pattern lets it be. -/
  | many (p : Char → Bool)
  /-- A run of the class, as short as the rest of the pattern lets it be. -/
  | few (p : Char → Bool)
  | named (name : String) (item : Item)

/-- The readings on the way through a run of the class, from here to its end. -/
def through (p : Char → Bool) (parts : List (String × List Char)) :
    List Char → List Char → List Reading
  | behind, [] => [⟨behind, [], parts⟩]
  | behind, c :: ahead =>
    ⟨behind, c :: ahead, parts⟩ :: if p c then through p parts (c :: behind) ahead else []

def isBoundary (cs : List Char) : Bool := cs.head?.all (· = '\n')

namespace Reading

variable (r : Reading)

/-- The reading behind a character of the class. -/
def next? (p : Char → Bool) : Option Reading :=
  match r.ahead with
  | [] => none
  | c :: ahead => if p c then some ⟨c :: r.behind, ahead, r.parts⟩ else none

/-- The readings on the way through a run of the class. -/
def run (p : Char → Bool) : List Reading := through p r.parts r.behind r.ahead

/-- The text from here to a later reading. -/
def upTo (t : Reading) : List Char := r.ahead.take (r.ahead.length - t.ahead.length)

/-- The reading `t` with the text up to it as a part. -/
def naming (name : String) (t : Reading) : Reading :=
  { t with parts := t.parts ++ [(name, r.upTo t)] }

end Reading

/-- The readings behind an item, in the order of preference. -/
def Item.fits (r : Reading) : Item → List Reading
  | .lineStart => if isBoundary r.behind then [r] else []
  | .lineEnd => if isBoundary r.ahead then [r] else []
  | .one p => (r.next? p).toList
  | .maybe p => (r.next? p).toList ++ [r]
  | .many p => (r.run p).reverse
  | .few p => r.run p
  | .named name item => (item.fits r).map (r.naming name)

/-- The characters of a text, one behind the other. -/
def literal (cs : List Char) : List Item := cs.map fun c => .one (· = c)

/-- The readings behind a pattern, in the order of preference. -/
def fits : List Item → Reading → List Reading
  | [], r => [r]
  | item :: items, r => (item.fits r).flatMap (fits items)

/-- The preferred fit at the leftmost place that has one. -/
def first? (items : List Item) (r : Reading) : Option Reading :=
  (through (fun _ => true) [] r.behind r.ahead).findSome? fun t => (fits items t).head?

/-- The parts of all matches. Each is searched for where the one before it ends. -/
inductive Finds (items : List Item) : Reading → List (List (String × List Char)) → Prop where
  | nothing {r : Reading} (missed : first? items r = none) : Finds items r []
  | another {r t : Reading} {more : List (List (String × List Char))}
      (found : first? items r = some t) (further : Finds items t more) :
      Finds items r (t.parts :: more)

variable {items : List Item} {p : Char → Bool} {r t : Reading} {name : String}
  {behind ahead l : List Char} {parts : List (String × List Char)} {below : List (List Char)}

/-- One search has one result. -/
theorem Finds.unique {ms ns : List (List (String × List Char))} (one : Finds items r ms)
    (other : Finds items r ns) : ms = ns := by
  induction one generalizing ns with
  | nothing missed =>
    cases other with
    | nothing => rfl
    | another found => simp [missed] at found
  | another found further ih =>
    cases other with
    | nothing missed => simp [found] at missed
    | another found' further' =>
      obtain rfl := Option.some.inj (found.symm.trans found')
      rw [ih further']

section Items

theorem after?_append_of_head? {cs y : List Char} (stop : ∀ c, y.head? = some c → c ∉ cs)
    (x : List Char) : after? cs (x ++ y) = (after? cs x).map (· ++ y) := by
  induction cs generalizing x with
  | nil => cases x <;> cases y <;> rfl
  | cons c cs ih =>
    have below := ih fun d hd mem => stop d hd (List.mem_cons_of_mem c mem)
    cases x with
    | nil =>
      cases y with
      | nil => rfl
      | cons d y =>
        have other : c ≠ d := by
          rintro rfl
          exact stop c rfl List.mem_cons_self
        simp [after?, other]
    | cons d x => by_cases hc : c = d <;> simp [after?, hc, below]

theorem fits_lineStart (r : Reading) :
    fits (.lineStart :: items) r = if isBoundary r.behind then fits items r else [] := by
  by_cases start : isBoundary r.behind = true <;> simp [fits, Item.fits, start]

theorem fits_one_cons (p : Char → Bool) (behind : List Char) (c : Char) (ahead : List Char)
    (parts : List (String × List Char)) : fits (.one p :: items) ⟨behind, c :: ahead, parts⟩ =
      if p c then fits items ⟨c :: behind, ahead, parts⟩ else [] := by
  by_cases hc : p c = true <;> simp [fits, Item.fits, Reading.next?, hc]

theorem fits_one_nil : fits (.one p :: items) ⟨behind, [], parts⟩ = [] := rfl

theorem fits_literal (cs behind ahead : List Char) (parts : List (String × List Char)) :
    fits (literal cs ++ items) ⟨behind, ahead, parts⟩ =
      (after? cs ahead).elim [] fun rest => fits items ⟨cs.reverse ++ behind, rest, parts⟩ := by
  induction cs generalizing behind ahead with
  | nil => cases ahead <;> rfl
  | cons c cs ih =>
    rw [literal, List.map_cons, List.cons_append, ← literal]
    cases ahead with
    | nil => rfl
    | cons d ahead =>
      rw [fits_one_cons, ih]
      by_cases same : d = c
      · simp [after?, same]
      · simp [after?, same, Ne.symm same]

/-- A run of the class ends at its last reading, and before that the class goes on. -/
theorem exists_through_eq (p : Char → Bool) (parts : List (String × List Char))
    (behind ahead : List Char) : ∃ inside,
      through p parts behind ahead =
        inside ++ [⟨(ahead.takeWhile p).reverse ++ behind, ahead.dropWhile p, parts⟩] ∧
      ∀ t ∈ inside, ∃ c, t.ahead.head? = some c ∧ p c = true := by
  induction ahead generalizing behind with
  | nil => exact ⟨[], rfl, nofun⟩
  | cons c ahead ih =>
    by_cases hc : p c = true
    · obtain ⟨inside, whole, lasts⟩ := ih (c :: behind)
      refine ⟨⟨behind, c :: ahead, parts⟩ :: inside, ?_, ?_⟩
      · simp [through, hc, whole]
      · rw [List.forall_mem_cons]
        exact ⟨⟨c, rfl, hc⟩, lasts⟩
    · exact ⟨[], by simp [through, hc], nofun⟩

/-- The pattern fits nowhere in front of a character of the class. -/
def Refuses (items : List Item) (p : Char → Bool) : Prop :=
  ∀ r c, r.ahead.head? = some c → p c = true → fits items r = []

theorem refuses_one {q : Char → Bool} (apart : ∀ c, p c = true → q c = false) :
    Refuses (.one q :: items) p := by
  rintro ⟨behind, ahead, parts⟩ c first hc
  obtain ⟨ahead, rfl⟩ := List.head?_eq_some_iff.mp first
  rw [fits_one_cons, apart c hc, if_neg Bool.false_ne_true]

theorem refuses_literal {c : Char} (hc : p c = false) (cs : List Char) (items : List Item) :
    Refuses (literal (c :: cs) ++ items) p := by
  apply refuses_one
  intro d hd
  by_contra same
  rw [Bool.not_eq_false, decide_eq_true_eq] at same
  rw [same, hc] at hd
  cases hd

/-- Where nothing goes on inside a run, only its last reading counts. -/
theorem flatMap_reverse_run {α : Type} {g : Reading → List α}
    (nothing : ∀ t c, t.ahead.head? = some c → p c = true → g t = []) (r : Reading) :
    (r.run p).reverse.flatMap g =
      g ⟨(r.ahead.takeWhile p).reverse ++ r.behind, r.ahead.dropWhile p, r.parts⟩ := by
  obtain ⟨inside, whole, lasts⟩ := exists_through_eq p r.parts r.behind r.ahead
  have cut : inside.reverse.flatMap g = [] := by
    rw [List.flatMap_eq_nil_iff]
    intro t ht
    obtain ⟨c, first, hc⟩ := lasts t (List.mem_reverse.mp ht)
    exact nothing t c first hc
  rw [Reading.run, whole, List.reverse_append, List.flatMap_append, cut]
  simp

/-- A run is taken whole if the rest of the pattern cannot start inside it. -/
theorem fits_many (refuses : Refuses items p) (r : Reading) : fits (.many p :: items) r =
    fits items ⟨(r.ahead.takeWhile p).reverse ++ r.behind, r.ahead.dropWhile p, r.parts⟩ := by
  rw [fits, Item.fits, flatMap_reverse_run refuses]

theorem upTo_of_append {front : List Char} (whole : r.ahead = front ++ t.ahead) :
    r.upTo t = front := by
  rw [Reading.upTo, whole]
  simp

theorem fits_named_many (refuses : Refuses items p) (name : String) (r : Reading) :
    fits (.named name (.many p) :: items) r =
      fits items ⟨(r.ahead.takeWhile p).reverse ++ r.behind, r.ahead.dropWhile p,
        r.parts ++ [(name, r.ahead.takeWhile p)]⟩ := by
  have taken : r.upTo ⟨(r.ahead.takeWhile p).reverse ++ r.behind, r.ahead.dropWhile p, r.parts⟩ =
      r.ahead.takeWhile p := upTo_of_append List.takeWhile_append_dropWhile.symm
  rw [fits, Item.fits, Item.fits, List.flatMap_map,
    flatMap_reverse_run fun t => refuses (r.naming name t), Reading.naming, taken]

end Items

section LineStarts

def underneath (ls : List (List Char)) : List Char := ls.flatMap ('\n' :: ·)

theorem joinLines_cons (l : List Char) (ls : List (List Char)) :
    joinLines (l :: ls) = l ++ underneath ls := by
  induction ls generalizing l with
  | nil => simp [joinLines, join, underneath]
  | cons m ls ih =>
    have rest := ih m
    rw [joinLines] at rest ⊢
    rw [join, rest]
    simp [underneath]

theorem underneath_eq {ls : List (List Char)} (ne : ls ≠ []) :
    underneath ls = '\n' :: joinLines ls := by
  obtain ⟨l, ls, rfl⟩ := List.exists_cons_of_ne_nil ne
  simp [joinLines_cons, underneath]

/-- The readings at the starts of lines, the first of which starts behind this text. -/
def lineStarts (parts : List (String × List Char)) : List Char → List (List Char) → List Reading
  | _, [] => []
  | behind, l :: below =>
    ⟨behind, l ++ underneath below, parts⟩ ::
      lineStarts parts ('\n' :: (l.reverse ++ behind)) below

def OnlyAtStarts {α : Type} (g : Reading → List α) : Prop :=
  ∀ t, isBoundary t.behind = false → g t = []

theorem onlyAtStarts_fits : OnlyAtStarts (fits (.lineStart :: items)) := by
  intro t inside
  rw [fits_lineStart, inside, if_neg Bool.false_ne_true]

variable {α : Type} {g : Reading → List α}

theorem flatMap_through_cons (g : Reading → List α) (behind : List Char) (c : Char)
    (ahead : List Char) (parts : List (String × List Char)) :
    (through (fun _ => true) parts behind (c :: ahead)).flatMap g =
      g ⟨behind, c :: ahead, parts⟩ ++
        (through (fun _ => true) parts (c :: behind) ahead).flatMap g := by
  simp [through]

/-- Inside a line there is nothing to add to what its start and its end give. -/
theorem flatMap_through_append (only : OnlyAtStarts g) (uncut : '\n' ∉ l) {ahead : List Char}
    (rest : List Char → List α) (ending : ∀ behind,
      (through (fun _ => true) parts behind ahead).flatMap g =
        g ⟨behind, ahead, parts⟩ ++ rest behind)
    (behind : List Char) :
    (through (fun _ => true) parts behind (l ++ ahead)).flatMap g =
      g ⟨behind, l ++ ahead, parts⟩ ++ rest (l.reverse ++ behind) := by
  induction l generalizing behind with
  | nil => exact ending behind
  | cons c l ih =>
    rw [List.mem_cons, not_or] at uncut
    have inside : g ⟨c :: behind, l ++ ahead, parts⟩ = [] := by
      apply only
      simpa [isBoundary] using Ne.symm uncut.1
    rw [List.cons_append, flatMap_through_cons, ih uncut.2, inside]
    simp

theorem flatMap_through (only : OnlyAtStarts g) (uncut : ∀ m ∈ l :: below, '\n' ∉ m)
    (behind : List Char) :
    (through (fun _ => true) parts behind (l ++ underneath below)).flatMap g =
      (lineStarts parts behind (l :: below)).flatMap g := by
  induction below generalizing l behind with
  | nil =>
    rw [List.forall_mem_singleton] at uncut
    have ending (behind : List Char) :
        (through (fun _ => true) parts behind (underneath [])).flatMap g =
          g ⟨behind, underneath [], parts⟩ ++
            (lineStarts parts ('\n' :: behind) []).flatMap g := by
      simp [underneath, through, lineStarts]
    exact flatMap_through_append only uncut _ ending behind
  | cons m more ih =>
    obtain ⟨first, others⟩ := List.forall_mem_cons.mp uncut
    have whole : underneath (m :: more) = '\n' :: (m ++ underneath more) := by simp [underneath]
    have ending (behind : List Char) :
        (through (fun _ => true) parts behind (underneath (m :: more))).flatMap g =
          g ⟨behind, underneath (m :: more), parts⟩ ++
            (lineStarts parts ('\n' :: behind) (m :: more)).flatMap g := by
      rw [whole, flatMap_through_cons, ih others]
    exact flatMap_through_append only first _ ending behind

theorem underneath_head? (below : List (List Char)) :
    ∀ c, (underneath below).head? = some c → c = '\n' := by
  cases below with
  | nil => simp [underneath]
  | cons m more => simp [underneath, eq_comm]

theorem stops_underneath (hp : p '\n' = false) (below : List (List Char)) :
    ∀ c, (underneath below).head? = some c → p c = false := by
  intro c first
  rw [underneath_head? below c first, hp]

theorem first?_eq_head? (items : List Item) (r : Reading) : first? items r =
    ((through (fun _ => true) [] r.behind r.ahead).flatMap (fits items)).head? :=
  List.head?_flatMap.symm

end LineStarts

end LintRepair.Text.Search
