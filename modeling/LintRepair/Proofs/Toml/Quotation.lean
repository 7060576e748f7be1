import LintRepair.Toml.Quotation
import LintRepair.Toml.Writer

/-!
Every text is read back from the quotation that it is written as, in each of the four forms. In
double quotes the escapes see to that, in single quotes the choice of the form. Quotation marks in a
row are what needs care in blocks: the reader cannot tell the ones that belong to a text from the
three behind it before it has seen them all.
-/
namespace LintRepair.Toml
open Text

variable {c d e q : Char} {read cs more rest spelling : List Char} {run best : Nat}

/-- Behind a backslash the characters stand for another one, whatever follows, and no line is
continued there. -/
structure Escapes (spelling : List Char) (c : Char) : Prop where
  stands : ∀ more, escape? (spelling ++ more) = some (c, more)
  ends : ∀ more, continued? (spelling ++ more) = none

theorem continued?_eq_none (h : isBlank d = false ∧ d ≠ '\n' ∧ d ≠ '\r') (more : List Char) :
    continued? (d :: more) = none := by
  obtain ⟨filled, not_lineFeed, not_return⟩ := h
  unfold continued?
  rw [List.dropWhile_cons_of_neg (by simp [filled])]
  split
  · rename_i same
    exact absurd (List.cons.inj same).1 not_lineFeed
  · rename_i same
    exact absurd (List.cons.inj same).1 not_return
  · rfl

theorem escapes_letter (plain : escapeWidth d = 0) (named : letter? d = some c)
    (shows : isBlank d = false ∧ d ≠ '\n' ∧ d ≠ '\r') : Escapes [d] c where
  stands more := by
    rw [List.singleton_append, escape?, if_pos plain, named]
    rfl
  ends := continued?_eq_none shows

theorem padFour_hexDigits {n : Nat} (small : n < 128) :
    padFour (hexDigits upperHex n) = ['0', '0', upperHex (n / 16), upperHex (n % 16)] := by
  by_cases one : n < 16
  · have quotient : n / 16 = 0 := by omega
    have remainder : n % 16 = n := by omega
    rw [hexDigits, if_pos one, quotient, remainder]
    rfl
  · rw [hexDigits, if_neg one, hexDigits, if_pos (by omega)]
    rfl

theorem codePoint?_two : ∀ n < 128,
    codePoint? ['0', '0', upperHex (n / 16), upperHex (n % 16)] = some (Char.ofNat n) := by
  decide +kernel

theorem escapes_codePoint (small : c.toNat < 128) :
    Escapes ('u' :: padFour (hexDigits upperHex c.toNat)) c where
  stands more := by
    have point := codePoint?_two c.toNat small
    rw [padFour_hexDigits small, List.cons_append, escape?]
    rw [if_neg (by decide), if_neg (by simp [escapeWidth])]
    show (codePoint? ['0', '0', upperHex (c.toNat / 16), upperHex (c.toNat % 16)]).map _ = _
    rw [point, Char.ofNat_toNat]
    rfl
  ends more := continued?_eq_none (by decide) _

/-- A character but a quotation mark is written as it is, if it may stand there, or escaped. -/
theorem escaped_cases (block : Bool) (c : Char) :
    (escaped block c = [c] ∧ c ≠ '\\' ∧ (isLineChar c || block && c = '\n') = true) ∨
      ∃ spelling, escaped block c = '\\' :: spelling ∧ Escapes spelling c := by
  have letter {d e : Char} (same : c = e) (named : escapeWidth d = 0 ∧ letter? d = some e)
      (shows : isBlank d = false ∧ d ≠ '\n' ∧ d ≠ '\r') : Escapes [d] c :=
    same ▸ escapes_letter named.1 named.2 shows
  unfold escaped
  split
  · exact .inr ⟨_, rfl, letter ‹_› (by decide) (by decide)⟩
  split
  · exact .inr ⟨_, rfl, letter ‹_› (by decide) (by decide)⟩
  split
  · rename_i lineFeed
    cases block
    · exact .inr ⟨_, rfl, letter lineFeed (by decide) (by decide)⟩
    · exact .inl ⟨lineFeed ▸ rfl, lineFeed ▸ by decide, by simp [lineFeed]⟩
  split
  · exact .inr ⟨_, rfl, letter ‹_› (by decide) (by decide)⟩
  split
  · exact .inr ⟨_, rfl, letter ‹_› (by decide) (by decide)⟩
  split
  · exact .inr ⟨_, rfl, letter ‹_› (by decide) (by decide)⟩
  rename_i not_backslash
  split
  · rename_i control
    refine .inr ⟨_, rfl, escapes_codePoint ?_⟩
    rw [Bool.or_eq_true, decide_eq_true_eq, decide_eq_true_eq] at control
    rcases control with below | rfl
    · exact Nat.lt_trans (m := ' '.toNat) below (by decide)
    · decide
  · rename_i visible
    rw [Bool.or_eq_true, decide_eq_true_eq, decide_eq_true_eq, not_or] at visible
    refine .inl ⟨rfl, not_backslash, ?_⟩
    simp [isLineChar, visible.2, Char.not_lt.mp visible.1]

theorem basic?_quote (read rest : List Char) :
    basic? read ('"' :: rest) = some (String.ofList read.reverse, rest) := by
  rw [basic?]

theorem basic?_escape (h : escape? more = some (e, rest)) :
    basic? read ('\\' :: more) = basic? (e :: read) rest := by
  rw [basic?]
  split
  · rename_i none
    rw [h] at none
    cases none
  · rename_i same
    rw [h] at same
    obtain ⟨rfl, rfl⟩ := Prod.mk.inj (Option.some.inj same)
    rfl

theorem basic?_char (fits : isLineChar c = true) (not_quote : c ≠ '"') (not_backslash : c ≠ '\\') :
    basic? read (c :: rest) = basic? (c :: read) rest := by
  rw [basic?]
  · rw [if_pos fits]
  · exact not_quote
  · exact not_backslash

/-- In double quotes on one line every quotation mark is escaped. -/
theorem basic?_escapedFrom (read cs rest : List Char) :
    basic? read (escapedFrom false 0 0 cs ++ '"' :: rest) =
      some (String.ofList (read.reverse ++ cs), rest) := by
  induction cs generalizing read with
  | nil => rw [escapedFrom, List.nil_append, basic?_quote, List.append_nil]
  | cons c cs ih =>
    have next := ih (c :: read)
    rw [List.reverse_cons, List.append_assoc, List.singleton_append] at next
    rw [escapedFrom]
    split
    · rename_i quote
      subst quote
      rw [if_neg (by decide)]
      exact (basic?_escape rfl).trans next
    · rename_i not_quote
      rw [List.append_assoc]
      rcases escaped_cases false c with ⟨plain, not_backslash, fits⟩ | ⟨spelling, spelled, escapes⟩
      · rw [plain, List.singleton_append, basic?_char (by simpa using fits) not_quote not_backslash]
        exact next
      · rw [spelled, List.cons_append, basic?_escape (escapes.stands _)]
        exact next

/-- Up to two quotation marks before the closing three belong to the text. -/
theorem closing_replicate (few : run ≤ 2) (ends : rest.head? ≠ some q) :
    closing q read (List.replicate run q ++ rest) =
      (String.ofList (read.reverse ++ List.replicate run q), rest) := by
  have apart {c : Char} {more : List Char} (here : rest = c :: more) : c ≠ q := by
    rintro rfl
    exact ends (by rw [here]; rfl)
  have cases_run : run = 0 ∨ run = 1 ∨ run = 2 := by omega
  rcases cases_run with rfl | rfl | rfl
  · cases rest with
    | nil => simp [closing]
    | cons c more =>
      cases more with
      | nil => simp [closing, apart rfl]
      | cons d more => simp [closing, apart rfl]
  · cases rest with
    | nil => simp [closing]
    | cons c more => simp [closing, apart rfl]
  · simp [closing]

theorem basicBlock?_close (read rest : List Char) :
    basicBlock? read ('"' :: '"' :: '"' :: rest) = some (closing '"' read rest) := by
  rw [basicBlock?]

theorem basicBlock?_escape (h : Escapes spelling c) :
    basicBlock? read ('\\' :: (spelling ++ rest)) = basicBlock? (c :: read) rest := by
  rw [basicBlock?]
  split
  · rename_i continued
    rw [h.ends] at continued
    cases continued
  · split
    · rename_i none
      rw [h.stands] at none
      cases none
    · rename_i same
      rw [h.stands] at same
      obtain ⟨rfl, rfl⟩ := Prod.mk.inj (Option.some.inj same)
      rfl

theorem basicBlock?_char (fits : (isLineChar c || c = '\n') = true) (not_backslash : c ≠ '\\')
    (unclosed : ∀ more, c :: rest ≠ '"' :: '"' :: '"' :: more) :
    basicBlock? read (c :: rest) = basicBlock? (c :: read) rest := by
  rw [basicBlock?]
  · rw [if_pos fits]
  · rintro more rfl rfl
    exact unclosed more rfl
  · rintro more rfl -
    cases fits
  · exact not_backslash

theorem literalBlock?_close (read rest : List Char) :
    literalBlock? read ('\'' :: '\'' :: '\'' :: rest) = some (closing '\'' read rest) := by
  rw [literalBlock?]

theorem literalBlock?_char (fits : (isLineChar c || c = '\n') = true)
    (unclosed : ∀ more, c :: rest ≠ '\'' :: '\'' :: '\'' :: more) :
    literalBlock? read (c :: rest) = literalBlock? (c :: read) rest := by
  rw [literalBlock?]
  · rw [if_pos fits]
  · rintro more rfl rfl
    exact unclosed more rfl
  · rintro more rfl -
    cases fits

/-- A reader of blocks goes on over one or two quotation marks that no third one follows. -/
theorem read_run {read? : List Char → List Char → Option (String × List Char)}
    (mark : ∀ read rest, (∀ more, q :: rest ≠ q :: q :: q :: more) →
      read? read (q :: rest) = read? (q :: read) rest)
    (few : run ≤ 2) (ends : more.head? ≠ some q) :
    read? read (List.replicate run q ++ more) = read? (List.replicate run q ++ read) more := by
  have apart (rest : List Char) : more ≠ q :: rest := by
    rintro rfl
    exact ends rfl
  have last (read : List Char) : read? read (q :: more) = read? (q :: read) more :=
    mark read more fun rest same => apart (q :: rest) (List.cons.inj same).2
  have cases_run : run = 0 ∨ run = 1 ∨ run = 2 := by omega
  rcases cases_run with rfl | rfl | rfl
  · rfl
  · exact last read
  · exact (mark read (q :: more) fun rest same =>
      apart rest (List.cons.inj (List.cons.inj same).2).2).trans (last (q :: read))

/-- Quotation marks at the end of a text move behind the three that close it. -/
theorem replicate_append_closing (few : run ≤ 2) (q : Char) (rest : List Char) :
    List.replicate run q ++ q :: q :: q :: rest =
      q :: q :: q :: (List.replicate run q ++ rest) := by
  have cases_run : run = 0 ∨ run = 1 ∨ run = 2 := by omega
  rcases cases_run with rfl | rfl | rfl <;> rfl

theorem basicBlock?_run (few : run ≤ 2) (ends : more.head? ≠ some '"') :
    basicBlock? read (List.replicate run '"' ++ more) =
      basicBlock? (List.replicate run '"' ++ read) more :=
  read_run (fun _ _ unclosed => basicBlock?_char (by decide) (by decide) unclosed) few ends

/-- In a block up to two quotation marks in a row are left as they are. Here `run` of them are
written and not yet read. -/
theorem basicBlock?_escapedFrom (read cs : List Char) (few : run ≤ 2)
    (ends : rest.head? ≠ some '"') :
    basicBlock? read (List.replicate run '"' ++ (escapedFrom true 2 run cs ++
        '"' :: '"' :: '"' :: rest)) =
      some (String.ofList (read.reverse ++ List.replicate run '"' ++ cs), rest) := by
  induction cs generalizing read run with
  | nil =>
    rw [escapedFrom, List.nil_append, replicate_append_closing few, basicBlock?_close,
      closing_replicate few ends, List.append_nil]
  | cons c cs ih =>
    have next : basicBlock? (c :: (List.replicate run '"' ++ read))
        (escapedFrom true 2 0 cs ++ '"' :: '"' :: '"' :: rest) =
          some (String.ofList (read.reverse ++ List.replicate run '"' ++ c :: cs), rest) := by
      simpa using ih (c :: (List.replicate run '"' ++ read)) (Nat.zero_le 2)
    rw [escapedFrom]
    split
    · rename_i quote
      subst quote
      split
      · rename_i free
        simpa [List.replicate_succ'] using ih read free
      · rw [basicBlock?_run few (by simp)]
        have mark : Escapes ['"'] '"' := escapes_letter (by decide) (by decide) (by decide)
        exact (basicBlock?_escape mark).trans next
    · rename_i not_quote
      rcases escaped_cases true c with ⟨plain, not_backslash, fits⟩ | ⟨spelling, spelled, escapes⟩
      · rw [plain, basicBlock?_run few (by simpa using not_quote)]
        refine (basicBlock?_char (by simpa using fits) not_backslash ?_).trans next
        exact fun more same => not_quote (List.cons.inj same).1
      · rw [spelled, basicBlock?_run few (by simp), List.append_assoc, List.cons_append,
          basicBlock?_escape escapes]
        exact next

/-- No run before is longer than the longest one, nor the current one. -/
theorem le_longestRun (q : Char) (current best : Nat) (cs : List Char) :
    current ≤ longestRun q current best cs ∧ best ≤ longestRun q current best cs := by
  induction cs generalizing current best with
  | nil => exact ⟨Nat.le_max_left _ _, Nat.le_max_right _ _⟩
  | cons c cs ih =>
    rw [longestRun]
    split
    · have later := ih (current + 1) best
      omega
    · have later := ih 0 (max current best)
      omega

theorem not_mem_of_longestRun (h : longestRun q run best cs = 0) : q ∉ cs := by
  induction cs generalizing run best with
  | nil => exact List.not_mem_nil
  | cons c cs ih =>
    rw [longestRun] at h
    split at h
    · have started := (le_longestRun q (run + 1) best cs).1
      omega
    · rename_i other
      rw [List.mem_cons, not_or]
      exact ⟨Ne.symm other, ih h⟩

theorem fits_of_not_isControl (h : isControl c = false) : (isLineChar c || c = '\n') = true := by
  by_cases tab : c = '\t'
  · simp [isLineChar, tab]
  by_cases lineFeed : c = '\n'
  · simp [lineFeed]
  simp only [isControl, tab, lineFeed, ne_eq, not_false_eq_true, decide_true, Bool.and_true,
    Bool.or_eq_false_iff, decide_eq_false_iff_not, Char.not_lt] at h
  simp [isLineChar, h]

theorem literalBlock?_run (few : run ≤ 2) (ends : more.head? ≠ some '\'') :
    literalBlock? read (List.replicate run '\'' ++ more) =
      literalBlock? (List.replicate run '\'' ++ read) more :=
  read_run (fun _ _ unclosed => literalBlock?_char (by decide) unclosed) few ends

/-- In single quotes a text stands as it is. Again `run` quotation marks are not yet read. -/
theorem literalBlock?_append (read : List Char) (short : longestRun '\'' run best cs ≤ 2)
    (plain : ∀ c ∈ cs, isControl c = false) (ends : rest.head? ≠ some '\'') :
    literalBlock? read (List.replicate run '\'' ++ (cs ++ '\'' :: '\'' :: '\'' :: rest)) =
      some (String.ofList (read.reverse ++ List.replicate run '\'' ++ cs), rest) := by
  have few : run ≤ 2 := Nat.le_trans (le_longestRun '\'' run best cs).1 short
  induction cs generalizing read run best with
  | nil =>
    rw [List.nil_append, replicate_append_closing few, literalBlock?_close,
      closing_replicate few ends, List.append_nil]
  | cons c cs ih =>
    have plain' : ∀ c ∈ cs, isControl c = false := fun d mem => plain d (List.mem_cons_of_mem c mem)
    rw [longestRun] at short
    split at short
    · rename_i quote
      subst quote
      simpa [List.replicate_succ'] using ih read short plain'
        (Nat.le_trans (le_longestRun _ _ _ _).1 short)
    · rename_i not_quote
      have next := ih (c :: (List.replicate run '\'' ++ read)) short plain' (Nat.zero_le 2)
      rw [List.cons_append, literalBlock?_run few (by simpa using not_quote)]
      refine (literalBlock?_char (fits_of_not_isControl (plain c List.mem_cons_self)) ?_).trans ?_
      · exact fun more same => not_quote (List.cons.inj same).1
      · simpa using next

theorem dropFirstLineEnd_of_ne (not_lineFeed : cs.head? ≠ some '\n')
    (not_return : cs.head? ≠ some '\r') : dropFirstLineEnd cs = cs := by
  unfold dropFirstLineEnd
  split
  · exact absurd rfl not_lineFeed
  · exact absurd rfl not_return
  · rfl

/-- The line end behind the opening quotation marks is no part of the text. One is written where the
text has a line end itself, and otherwise the text starts with no line end. -/
theorem dropFirstLineEnd_start (begins : '\n' ∉ cs → more.head? ≠ some '\n')
    (not_return : more.head? ≠ some '\r') :
    dropFirstLineEnd ((if cs.contains '\n' then ['\n'] else []) ++ more) = more := by
  split
  · rfl
  · rename_i single
    exact dropFirstLineEnd_of_ne (begins (by simpa using single)) not_return

theorem quotation?_basic (cs rest : List Char) (ends : rest.head? ≠ some '"') :
    quotation? (written .basic cs ++ rest) = some (String.ofList cs, rest) := by
  have opened : quotation? ('"' :: (escapedFrom false 0 0 cs ++ '"' :: rest)) =
      basic? [] (escapedFrom false 0 0 cs ++ '"' :: rest) := by
    rw [quotation?]
    intro more same
    cases cs with
    | nil =>
      rw [escapedFrom, List.nil_append] at same
      exact ends (by rw [(List.cons.inj same).2]; rfl)
    | cons c cs =>
      rw [escapedFrom] at same
      split at same
      · cases same
      · rename_i not_quote
        rcases escaped_cases false c with ⟨plain, -, -⟩ | ⟨spelling, spelled, -⟩
        · rw [plain] at same
          exact not_quote (List.cons.inj same).1
        · rw [spelled] at same
          cases same
  have whole : written .basic cs ++ rest = '"' :: (escapedFrom false 0 0 cs ++ '"' :: rest) := by
    simp [written]
  rw [whole, opened, basic?_escapedFrom]
  rfl

theorem quotation?_basicBlock (cs rest : List Char) (ends : rest.head? ≠ some '"') :
    quotation? (written .basicBlock cs ++ rest) = some (String.ofList cs, rest) := by
  have first : (escapedFrom true 2 0 cs ++ '"' :: '"' :: '"' :: rest).head? ≠ some '\r' ∧
      ('\n' ∉ cs → (escapedFrom true 2 0 cs ++ '"' :: '"' :: '"' :: rest).head? ≠ some '\n') := by
    cases cs with
    | nil => simp [escapedFrom]
    | cons c cs =>
      rw [escapedFrom]
      split
      · simp
      rcases escaped_cases true c with ⟨plain, -, fits⟩ | ⟨spelling, spelled, -⟩
      · rw [plain]
        constructor
        · rintro same
          obtain rfl : c = '\r' := by simpa using same
          cases fits
        · intro single same
          obtain rfl : c = '\n' := by simpa using same
          exact single List.mem_cons_self
      · rw [spelled]
        simp
  have whole : written .basicBlock cs ++ rest = '"' :: '"' :: '"' ::
      ((if cs.contains '\n' then ['\n'] else []) ++
        (escapedFrom true 2 0 cs ++ '"' :: '"' :: '"' :: rest)) := by
    simp [written]
  have body := basicBlock?_escapedFrom [] cs (Nat.zero_le 2) ends
  rw [whole, quotation?, dropFirstLineEnd_start first.2 first.1]
  exact body

theorem quotation?_literal (cs rest : List Char) (ends : rest.head? ≠ some '\'')
    (plain : ∀ c ∈ cs, isControl c = false) (single : '\n' ∉ cs) (unquoted : '\'' ∉ cs) :
    quotation? (written .literal cs ++ rest) = some (String.ofList cs, rest) := by
  have opened : quotation? ('\'' :: (cs ++ '\'' :: rest)) = literal? (cs ++ '\'' :: rest) := by
    rw [quotation?]
    intro more same
    cases cs with
    | nil => exact ends (by rw [(List.cons.inj same).2]; rfl)
    | cons c cs => exact unquoted ((List.cons.inj same).1 ▸ List.mem_cons_self)
  have other : ∀ c ∈ cs, decide (c ≠ '\'') = true := by
    intro c mem
    rw [decide_eq_true_eq]
    rintro rfl
    exact unquoted mem
  have fits : cs.all isLineChar = true := by
    rw [List.all_eq_true]
    intro c mem
    have fits := fits_of_not_isControl (plain c mem)
    rw [Bool.or_eq_true, decide_eq_true_eq] at fits
    exact fits.resolve_right fun lineFeed => single (lineFeed ▸ mem)
  have whole : written .literal cs ++ rest = '\'' :: (cs ++ '\'' :: rest) := by
    simp [written]
  rw [whole, opened, literal?, List.dropWhile_append_of_pos other,
    List.takeWhile_append_of_pos other]
  simp [fits]

theorem quotation?_literalBlock (cs rest : List Char) (ends : rest.head? ≠ some '\'')
    (plain : ∀ c ∈ cs, isControl c = false) (short : longestRun '\'' 0 0 cs ≤ 2) :
    quotation? (written .literalBlock cs ++ rest) = some (String.ofList cs, rest) := by
  have first : (cs ++ '\'' :: '\'' :: '\'' :: rest).head? ≠ some '\r' ∧
      ('\n' ∉ cs → (cs ++ '\'' :: '\'' :: '\'' :: rest).head? ≠ some '\n') := by
    cases cs with
    | nil => simp
    | cons c cs =>
      constructor
      · intro same
        obtain rfl : c = '\r' := by simpa using same
        cases plain '\r' List.mem_cons_self
      · intro single same
        obtain rfl : c = '\n' := by simpa using same
        exact single List.mem_cons_self
  have whole : written .literalBlock cs ++ rest = '\'' :: '\'' :: '\'' ::
      ((if cs.contains '\n' then ['\n'] else []) ++ (cs ++ '\'' :: '\'' :: '\'' :: rest)) := by
    simp [written]
  have body := literalBlock?_append [] short plain ends
  rw [whole, quotation?, dropFirstLineEnd_start first.2 first.1]
  exact body

/-- Whatever stands in a text, it is read back, unless another quotation mark follows. -/
theorem quotation?_quotation (s : String) (rest : List Char) (double : rest.head? ≠ some '"')
    (single : rest.head? ≠ some '\'') : quotation? (quotation s ++ rest) = some (s, rest) := by
  have back : String.ofList s.toList = s := String.ofList_toList
  rw [quotation]
  generalize s.toList = cs at back
  rw [← back]
  have plain (h : cs.any isControl = false) : ∀ c ∈ cs, isControl c = false := by
    simpa using h
  unfold formOf
  simp only
  split
  · exact quotation?_basic cs rest double
  split
  · exact quotation?_basic cs rest double
  split
  · rename_i literal
    simp only [Bool.and_eq_true, Bool.not_eq_true', decide_eq_true_eq] at literal
    obtain ⟨⟨control, lineEnd⟩, none⟩ := literal
    exact quotation?_literal cs rest single (plain control) (by simpa using lineEnd)
      (not_mem_of_longestRun none)
  split
  · exact quotation?_basicBlock cs rest double
  split
  · rename_i literal
    simp only [Bool.and_eq_true, Bool.not_eq_true', decide_eq_true_eq] at literal
    exact quotation?_literalBlock cs rest single (plain literal.1) literal.2
  split
  · exact quotation?_basicBlock cs rest double
  · exact quotation?_basic cs rest double

end LintRepair.Toml
