import LintRepair.Proofs.Toml.Item

/-!
A document of pairs and sections is read back as the table that it lays out: the pairs first, then
one table for each section, as long as no key comes twice in one place.
-/
namespace LintRepair.Toml
open Text

variable {c : Char} {cs rest more after : List Char} {key name : String} {v : Value}

/-- A key that is written without quotation marks. -/
def isBareKey (key : String) : Bool := !key.toList.isEmpty && key.toList.all isKeyChar

theorem exists_cons_of_isBareKey (h : isBareKey key = true) :
    (∀ c ∈ key.toList, isKeyChar c = true) ∧ ∃ c more, key.toList = c :: more := by
  rw [isBareKey, Bool.and_eq_true, List.all_eq_true] at h
  obtain ⟨filled, letters⟩ := h
  exact ⟨letters, List.exists_cons_of_ne_nil fun none => by simp [none] at filled⟩

theorem ne_of_isKeyChar {d : Char} (h : isKeyChar c = true) (other : isKeyChar d = false) :
    c ≠ d := by
  rintro rfl
  rw [h] at other
  cases other

theorem shows_of_isKeyChar (h : isKeyChar c = true) : Shows c := by
  refine ⟨ne_of_isKeyChar h (by decide), ne_of_isKeyChar h (by decide), ?_,
    ne_of_isKeyChar h (by decide)⟩
  rw [Toml.isBlank, Bool.or_eq_false_iff, decide_eq_false_iff_not, decide_eq_false_iff_not]
  exact ⟨ne_of_isKeyChar h (by decide), ne_of_isKeyChar h (by decide)⟩

/-- A bare key ends at the first character that it cannot have. -/
theorem key?_append (h : isBareKey key = true) (ends : isKeyChar c = false) (more : List Char) :
    key? (key.toList ++ c :: more) = some (key, c :: more) := by
  obtain ⟨letters, d, others, starts⟩ := exists_cons_of_isBareKey h
  have first : isKeyChar d = true := letters d (starts ▸ List.mem_cons_self)
  have taken : (key.toList ++ c :: more).takeWhile isKeyChar = key.toList := by
    rw [List.takeWhile_append_of_pos letters, List.takeWhile_cons_of_neg (by simp [ends]),
      List.append_nil]
  have left : (key.toList ++ c :: more).dropWhile isKeyChar = c :: more := by
    rw [List.dropWhile_append_of_pos letters, List.dropWhile_cons_of_neg (by simp [ends])]
  have filled : key.toList.isEmpty = false := by rw [starts]; rfl
  unfold key?
  split
  · rename_i double
    rw [starts] at double
    exact absurd (List.cons.inj double).1 (ne_of_isKeyChar first (by decide))
  · rename_i single
    rw [starts] at single
    exact absurd (List.cons.inj single).1 (ne_of_isKeyChar first (by decide))
  · rw [taken, left, filled, String.ofList_toList]
    rfl

theorem keys?_append (h : isBareKey key = true) (c : Char) (more : List Char)
    (ends : isKeyChar c = false) (undotted : ((c :: more).dropWhile isBlank).head? ≠ some '.') :
    keys? (key.toList ++ c :: more) = some ([key], (c :: more).dropWhile isBlank) := by
  have parts : keyParts? [] (key.toList ++ c :: more) =
      some ([key], (c :: more).dropWhile isBlank) := by
    rw [keyParts?, key?_append h ends]
    simp only
    split
    · rename_i dotted
      exact absurd (by rw [dotted]; rfl) undotted
    · rfl
  rw [keys?, parts]
  rfl

theorem exists_start_of_layout (item : Item) :
    ∃ c more, item.layout = c :: more ∧ isBlank c = false := by
  cases item with
  | text s =>
    obtain ⟨q, more, starts, mark⟩ := exists_mark_of_quotation s
    exact ⟨q, more, starts, by rcases mark with rfl | rfl <;> rfl⟩
  | number n =>
    obtain ⟨c, more, digits⟩ := exists_decimal_cons n
    have first : isScalarChar c = true :=
      isScalarChar_of_isDigit (isDigit_of_mem_decimal (n := n) (digits ▸ List.mem_cons_self))
    refine ⟨c, more, digits, ?_⟩
    by_contra blank
    simp only [Toml.isBlank, Bool.not_eq_false, Bool.or_eq_true, decide_eq_true_eq] at blank
    rcases blank with rfl | rfl <;> cases first
  | flag b => cases b <;> exact ⟨_, _, rfl, rfl⟩
  | texts ss =>
    cases ss with
    | nil => exact ⟨_, _, rfl, rfl⟩
    | cons s ss => cases ss <;> exact ⟨_, _, rfl, rfl⟩

def Statement.ofPair (p : String × Item) : Statement := .pair ⟨[p.1], p.2.value⟩

theorem statement?_pair {p : String × Item} (h : isBareKey p.1 = true) (rest : List Char) :
    statement? (pairLayout p ++ rest) = some (.ofPair p, '\n' :: rest) := by
  obtain ⟨key, item⟩ := p
  obtain ⟨letters, d, others, starts⟩ := exists_cons_of_isBareKey h
  have first : isKeyChar d = true := letters d (starts ▸ List.mem_cons_self)
  obtain ⟨c, more, begins, filled⟩ := exists_start_of_layout item
  have whole : pairLayout (key, item) ++ rest =
      key.toList ++ ' ' :: '=' :: ' ' :: (item.layout ++ '\n' :: rest) := by
    simp [pairLayout]
  have behind : (' ' :: '=' :: ' ' :: (item.layout ++ '\n' :: rest)).dropWhile isBlank =
      '=' :: ' ' :: (item.layout ++ '\n' :: rest) := rfl
  have keys := keys?_append h ' ' ('=' :: ' ' :: (item.layout ++ '\n' :: rest)) (by decide)
    (by rw [behind]; simp)
  have gap : (' ' :: (item.layout ++ '\n' :: rest)).dropWhile isBlank =
      item.layout ++ '\n' :: rest := by
    rw [List.dropWhile_cons_of_pos rfl, begins, List.cons_append,
      List.dropWhile_cons_of_neg (by simp [filled])]
  have value : value? depthLimit (item.layout ++ '\n' :: rest) =
      some (item.value, '\n' :: rest) := value?_layout 79 item rest
  rw [whole]
  unfold statement?
  split
  · rename_i header
    rw [starts] at header
    exact absurd (List.cons.inj header).1 (ne_of_isKeyChar first (by decide))
  · rename_i header
    rw [starts] at header
    exact absurd (List.cons.inj header).1 (ne_of_isKeyChar first (by decide))
  · rw [pair?, keys, behind]
    simp only [afterGap?, Bool.false_eq_true, if_false]
    rw [List.dropWhile_cons_of_neg (by decide)]
    simp only [gap, Option.bind_some, value]
    rfl

theorem statement?_header (h : isBareKey name = true) (rest : List Char) :
    statement? ('[' :: (name.toList ++ ']' :: rest)) = some (.header [name], rest) := by
  obtain ⟨letters, d, others, starts⟩ := exists_cons_of_isBareKey h
  have first : isKeyChar d = true := letters d (starts ▸ List.mem_cons_self)
  have filled : isBlank d = false := (shows_of_isKeyChar first).2.2.1
  have keys := keys?_append h ']' rest (by decide)
    (by rw [List.dropWhile_cons_of_neg (by decide)]; simp)
  rw [List.dropWhile_cons_of_neg (by decide)] at keys
  have gap : (name.toList ++ ']' :: rest).dropWhile isBlank = name.toList ++ ']' :: rest := by
    rw [starts, List.cons_append, List.dropWhile_cons_of_neg (by simp [filled])]
  unfold statement?
  split
  · rename_i double
    rw [starts] at double
    exact absurd (List.cons.inj (List.cons.inj double).2).1 (ne_of_isKeyChar first (by decide))
  · rename_i single
    rw [← (List.cons.inj single).2, gap, keys]
    rfl
  · rename_i other
    exact absurd rfl (other _)

theorem afterLine?_lineFeed (rest : List Char) : afterLine? ('\n' :: rest) = some rest := by
  unfold afterLine?
  rw [List.dropWhile_cons_of_neg (by decide)]
  rfl

theorem statementsAfter_next {read : List Statement} {s : Statement}
    (begins : afterFiller? false cs = some (c :: more))
    (statement : statement? (c :: more) = some (s, '\n' :: rest))
    (shorter : rest.length < cs.length) :
    statementsAfter read cs = statementsAfter (s :: read) rest := by
  rw [statementsAfter, begins]
  simp only [statement, afterLine?_lineFeed, dif_pos shorter]

theorem statementsAfter_pairs {pairs : List (String × Item)}
    (bare : ∀ p ∈ pairs, isBareKey p.1 = true) (read : List Statement) (rest : List Char) :
    statementsAfter read (pairs.flatMap pairLayout ++ rest) =
      statementsAfter ((pairs.map .ofPair).reverse ++ read) rest := by
  induction pairs generalizing read with
  | nil => rfl
  | cons p pairs ih =>
    have bare_key : isBareKey p.1 = true := bare p List.mem_cons_self
    obtain ⟨letters, d, others, starts⟩ := exists_cons_of_isBareKey bare_key
    have shows : Shows d := shows_of_isKeyChar (letters d (starts ▸ List.mem_cons_self))
    have line : pairLayout p = d :: (others ++ [' ', '=', ' '] ++ p.2.layout ++ ['\n']) := by
      rw [pairLayout, starts]
      rfl
    have statement := statement?_pair bare_key (pairs.flatMap pairLayout ++ rest)
    have begins := afterFiller?_of_shows shows
      (others ++ [' ', '=', ' '] ++ p.2.layout ++ ['\n'] ++ (pairs.flatMap pairLayout ++ rest))
    rw [List.flatMap_cons, List.append_assoc]
    rw [line, List.cons_append] at statement ⊢
    rw [statementsAfter_next begins statement (by simp; omega),
      ih fun q mem => bare q (List.mem_cons_of_mem p mem)]
    simp

def Statement.ofSection (s : String × List (String × Item)) : List Statement :=
  .header [s.1] :: s.2.map .ofPair

theorem statementsAfter_sections {sections : List (String × List (String × Item))}
    (bare : ∀ s ∈ sections, isBareKey s.1 = true ∧ ∀ p ∈ s.2, isBareKey p.1 = true)
    (read : List Statement) (rest : List Char) :
    statementsAfter read (sections.flatMap sectionLayout ++ rest) =
      statementsAfter ((sections.flatMap Statement.ofSection).reverse ++ read) rest := by
  induction sections generalizing read with
  | nil => rfl
  | cons s sections ih =>
    obtain ⟨bare_name, bare_keys⟩ := bare s List.mem_cons_self
    generalize others : sections.flatMap sectionLayout ++ rest = after at ih
    have whole : (s :: sections).flatMap sectionLayout ++ rest =
        '\n' :: '[' :: (s.1.toList ++ ']' :: '\n' :: (s.2.flatMap pairLayout ++ after)) := by
      rw [← others]
      simp [sectionLayout]
    have begins : afterFiller? false
        ('\n' :: '[' :: (s.1.toList ++ ']' :: '\n' :: (s.2.flatMap pairLayout ++ after))) =
          some ('[' :: (s.1.toList ++ ']' :: '\n' :: (s.2.flatMap pairLayout ++ after))) := by
      rw [afterFiller?_lineFeed]
      exact afterFiller?_of_shows (by decide) _
    have header := statement?_header bare_name ('\n' :: (s.2.flatMap pairLayout ++ after))
    rw [whole, statementsAfter_next begins header (by simp; omega),
      statementsAfter_pairs bare_keys, ih fun s' mem => bare s' (List.mem_cons_of_mem s mem)]
    simp [Statement.ofSection]

/-- The statements of a document, whatever its keys, are those that it was laid out from. -/
theorem statements?_layout {pairs : List (String × Item)}
    {sections : List (String × List (String × Item))} (bare : ∀ p ∈ pairs, isBareKey p.1 = true)
    (bare_sections : ∀ s ∈ sections, isBareKey s.1 = true ∧ ∀ p ∈ s.2, isBareKey p.1 = true) :
    statements? (layout pairs sections ++ ['\n']) =
      some (pairs.map .ofPair ++ sections.flatMap Statement.ofSection) := by
  have unmarked : (layout pairs sections ++ ['\n']).head? ≠ some '\uFEFF' := by
    cases pairs with
    | nil =>
      cases sections with
      | nil => decide
      | cons s sections => simp [layout, sectionLayout]
    | cons p pairs =>
      obtain ⟨letters, d, others, starts⟩ := exists_cons_of_isBareKey (bare p List.mem_cons_self)
      have letter : isKeyChar d = true := letters d (starts ▸ List.mem_cons_self)
      have other : d ≠ '\uFEFF' := ne_of_isKeyChar letter (by decide)
      simpa [layout, pairLayout, starts] using other
  have ends (read : List Statement) : statementsAfter read ['\n'] = some read.reverse := by
    rw [statementsAfter, afterFiller?_lineFeed]
    rfl
  unfold statements?
  split
  · rename_i marked
    rw [marked] at unmarked
    exact absurd rfl unmarked
  · rw [layout, List.append_assoc, statementsAfter_pairs bare,
      statementsAfter_sections bare_sections, ends]
    simp

def entriesOf (pairs : List (String × Item)) : Entries := pairs.map fun p => (p.1, p.2.value)

def entryOf (s : String × List (String × Item)) : String × Value :=
  (s.1, .table .header (entriesOf s.2))

section Draft
variable {es front child : Entries} {current : List String} {pairs : List (String × Item)}
variable {sections : List (String × List (String × Item))}

theorem lookup_eq_none_of_nodup {p : String × Value} {others : List (String × Value)}
    (distinct : ((es ++ p :: others).map Prod.fst).Nodup) : es.lookup p.1 = none := by
  rw [List.lookup_eq_none_iff]
  intro e mem
  rw [List.map_append, List.nodup_append] at distinct
  have apart := distinct.2.2 e.1 (List.mem_map_of_mem mem) p.1 (by simp)
  simpa using Ne.symm apart

theorem add_free (free : es.lookup key = none) :
    Entries.add key v es = some (es ++ [(key, v)]) := by
  rw [Entries.add, free]
  rfl

theorem addPair_free (free : es.lookup key = none) :
    Entries.addPair ⟨[key], v⟩ .header es = some (es ++ [(key, v)]) := add_free free

theorem add_pair (free : es.lookup key = none) :
    Draft.add ⟨es, []⟩ (.pair ⟨[key], v⟩) = some ⟨es ++ [(key, v)], []⟩ := by
  show (Entries.addPair ⟨[key], v⟩ .header es).map _ = _
  rw [addPair_free free]
  rfl

theorem add_header (free : es.lookup name = none) :
    Draft.add ⟨es, current⟩ (.header [name]) =
      some ⟨es ++ [(name, .table .header [])], [name]⟩ := by
  show (Entries.openTable [] name es).map _ = _
  rw [Entries.openTable, Entries.enter, free]
  rfl

/-- A pair below a header goes into the table at the end. -/
theorem add_pair_below (fresh : front.lookup name = none) (free : child.lookup key = none) :
    Draft.add ⟨front ++ [(name, .table .header child)], [name]⟩ (.pair ⟨[key], v⟩) =
      some ⟨front ++ [(name, .table .header (child ++ [(key, v)]))], [name]⟩ := by
  have found : (front ++ [(name, Value.table .header child)]).lookup name =
      some (.table .header child) := by
    rw [List.lookup_append, fresh]
    simp
  have replaced (child' : Entries) :
      Entries.replace (front ++ [(name, .table .header child)]) name (.table .header child') =
        front ++ [(name, .table .header child')] := by
    have kept : front.map (fun e => if e.1 = name then (name, .table .header child') else e) =
        front := by
      conv_rhs => rw [← List.map_id front]
      refine List.map_congr_left fun e mem => if_neg fun same => ?_
      have other := List.lookup_eq_none_iff.mp fresh e mem
      simp [same] at other
    rw [Entries.replace, List.map_append, kept]
    simp
  show (Entries.enter false _ [name] .header _).map _ = _
  rw [Entries.enter, found]
  simp only [Entries.enter, addPair_free free]
  rw [if_neg (by decide), Option.map_some, replaced]
  rfl

theorem foldlM_pairs (distinct : ((es ++ entriesOf pairs).map Prod.fst).Nodup) :
    (pairs.map Statement.ofPair).foldlM Draft.add ⟨es, []⟩ = some ⟨es ++ entriesOf pairs, []⟩ := by
  induction pairs generalizing es with
  | nil => simp [entriesOf]
  | cons p pairs ih =>
    have whole : es ++ entriesOf (p :: pairs) = es ++ [(p.1, p.2.value)] ++ entriesOf pairs := by
      simp [entriesOf]
    have free : es.lookup p.1 = none := lookup_eq_none_of_nodup distinct
    rw [List.map_cons, List.foldlM_cons, Statement.ofPair, add_pair free, whole]
    exact ih (whole ▸ distinct)

theorem foldlM_section (fresh : front.lookup name = none)
    (distinct : ((child ++ entriesOf pairs).map Prod.fst).Nodup) :
    (pairs.map Statement.ofPair).foldlM Draft.add
        ⟨front ++ [(name, .table .header child)], [name]⟩ =
      some ⟨front ++ [(name, .table .header (child ++ entriesOf pairs))], [name]⟩ := by
  induction pairs generalizing child with
  | nil => simp [entriesOf]
  | cons p pairs ih =>
    have whole : child ++ entriesOf (p :: pairs) =
        child ++ [(p.1, p.2.value)] ++ entriesOf pairs := by
      simp [entriesOf]
    have free : child.lookup p.1 = none := lookup_eq_none_of_nodup distinct
    rw [List.map_cons, List.foldlM_cons, Statement.ofPair, add_pair_below fresh free, whole]
    exact ih (whole ▸ distinct)

theorem foldlM_sections (distinct : ((es ++ sections.map entryOf).map Prod.fst).Nodup)
    (inner : ∀ s ∈ sections, (s.2.map Prod.fst).Nodup) :
    ∃ last, (sections.flatMap Statement.ofSection).foldlM Draft.add ⟨es, current⟩ =
      some ⟨es ++ sections.map entryOf, last⟩ := by
  induction sections generalizing es current with
  | nil => exact ⟨current, by simp⟩
  | cons s sections ih =>
    have whole : es ++ (s :: sections).map entryOf =
        es ++ [(s.1, .table .header (entriesOf s.2))] ++ sections.map entryOf := by
      simp [entryOf]
    have fresh : es.lookup s.1 = none := lookup_eq_none_of_nodup distinct
    have keys : ((([] : Entries) ++ entriesOf s.2).map Prod.fst).Nodup := by
      have same : (([] : Entries) ++ entriesOf s.2).map Prod.fst = s.2.map Prod.fst := by
        simp [entriesOf]
      rw [same]
      exact inner s List.mem_cons_self
    obtain ⟨last, rest⟩ : ∃ last, (sections.flatMap Statement.ofSection).foldlM Draft.add
        ⟨es ++ [(s.1, .table .header (entriesOf s.2))], [s.1]⟩ = some ⟨_, last⟩ :=
      ih (whole ▸ distinct) fun s' mem => inner s' (List.mem_cons_of_mem s mem)
    refine ⟨last, ?_⟩
    rw [List.flatMap_cons, List.foldlM_append, Statement.ofSection, List.foldlM_cons,
      add_header fresh, whole, ← rest]
    exact congrArg (· >>= _) (foldlM_section fresh keys)

end Draft

/-- Reading a document that was laid out gives what it was laid out from. -/
theorem read?_layout {pairs : List (String × Item)}
    {sections : List (String × List (String × Item))}
    (bare : (pairs.map Prod.fst ++ sections.map Prod.fst).all isBareKey = true)
    (bare_below : sections.all (fun s => (s.2.map Prod.fst).all isBareKey) = true)
    (distinct : (pairs.map Prod.fst ++ sections.map Prod.fst).Nodup)
    (distinct_below : ∀ s ∈ sections, (s.2.map Prod.fst).Nodup) :
    read? (String.ofList (layout pairs sections) ++ "\n") =
      some (entriesOf pairs ++ sections.map entryOf) := by
  simp only [List.all_append, List.all_map, Bool.and_eq_true, List.all_eq_true] at bare bare_below
  have text : (String.ofList (layout pairs sections) ++ "\n").toList =
      layout pairs sections ++ ['\n'] := by
    simp
  have keys : ((([] : Entries) ++ entriesOf pairs ++ sections.map entryOf).map Prod.fst).Nodup := by
    have same : (([] : Entries) ++ entriesOf pairs ++ sections.map entryOf).map Prod.fst =
        pairs.map Prod.fst ++ sections.map Prod.fst := by
      simp [entriesOf, entryOf, Function.comp_def]
    rw [same]
    exact distinct
  have statements := statements?_layout bare.1 fun s mem => ⟨bare.2 s mem, bare_below s mem⟩
  have top : (pairs.map Statement.ofPair).foldlM Draft.add ⟨[], []⟩ =
      some ⟨[] ++ entriesOf pairs, []⟩ := by
    rw [List.map_append] at keys
    exact foldlM_pairs (List.nodup_append.mp keys).1
  obtain ⟨last, below⟩ : ∃ last, (sections.flatMap Statement.ofSection).foldlM Draft.add
      ⟨[] ++ entriesOf pairs, []⟩ = some ⟨_, last⟩ := foldlM_sections keys distinct_below
  rw [read?, text, statements, Option.bind_some, List.foldlM_append]
  show (((pairs.map Statement.ofPair).foldlM Draft.add ⟨[], []⟩) >>= _).map Draft.entries = _
  rw [top]
  show ((sections.flatMap Statement.ofSection).foldlM Draft.add ⟨[] ++ entriesOf pairs, []⟩).map
    Draft.entries = _
  rw [below]
  rfl

end LintRepair.Toml
