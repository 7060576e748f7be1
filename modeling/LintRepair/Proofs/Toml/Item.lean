import LintRepair.Proofs.Toml.Quotation
import LintRepair.Toml.Reader
import Mathlib.Data.List.Basic
import Mathlib.Data.List.TakeWhile

/-!
What is written behind a key is read back as the value that it stands for: texts as quotations,
numbers in decimal, flags as words and lists in brackets.
-/
namespace LintRepair.Toml
open Text

variable {c : Char} {cs rest : List Char} {n : Nat}

/-- The value that an item stands for. -/
def Item.value : Item → Value
  | .text s => .text s
  | .number n => .integer n
  | .flag b => .bool b
  | .texts ss => .array (ss.map .text)

section Decimal

theorem isDigit_of_mem_decimal (mem : c ∈ (toString n).toList) : c.isDigit = true := by
  rw [Nat.toString_eq_ofList_toDigits, String.toList_ofList] at mem
  exact Nat.isDigit_of_mem_toDigits (by decide) (by decide) mem

theorem exists_decimal_cons (n : Nat) : ∃ c cs, (toString n).toList = c :: cs := by
  rw [Nat.toString_eq_ofList_toDigits, String.toList_ofList]
  exact List.exists_cons_of_ne_nil Nat.toDigits_ne_nil

theorem digitChar_ne_zero : ∀ n < 10, n ≠ 0 → Nat.digitChar n ≠ '0' := by decide

theorem head?_toDigits (h : n ≠ 0) : (Nat.toDigits 10 n).head? ≠ some '0' := by
  induction n using Nat.strongRecOn with
  | _ n ih =>
    by_cases one : n < 10
    · rw [Nat.toDigits_of_lt_base one, List.head?_cons]
      exact fun same => digitChar_ne_zero n one h (Option.some.inj same)
    · rw [Nat.toDigits_of_base_le (by decide) (by omega),
        List.head?_append_of_ne_nil _ Nat.toDigits_ne_nil]
      exact ih (n / 10) (by omega) (by omega)

theorem decimal_of_head? (h : (toString n).toList.head? = some '0') :
    (toString n).toList = ['0'] := by
  rw [Nat.toString_eq_ofList_toDigits, String.toList_ofList] at h ⊢
  obtain rfl : n = 0 := Decidable.byContradiction fun ne => head?_toDigits ne h
  rfl

theorem ne_underscore_of_isDigit (h : c.isDigit = true) : c ≠ '_' := by
  rintro rfl
  cases h

theorem filter_decimal (n : Nat) : (toString n).toList.filter (· ≠ '_') = (toString n).toList := by
  rw [List.filter_eq_self]
  exact fun c mem => decide_eq_true (ne_underscore_of_isDigit (isDigit_of_mem_decimal mem))

theorem number_decimal (n : Nat) : number 10 (toString n).toList = n := by
  have digits (cs : List Char) (marks : ∀ c ∈ cs, c.isDigit = true) (start : Nat) :
      cs.foldl (fun n c => n * 10 + digitValue c) start = Nat.ofDigitChars 10 cs start := by
    induction cs generalizing start with
    | nil => rfl
    | cons c cs ih =>
      have value : digitValue c = c.toNat - '0'.toNat := if_pos (marks c List.mem_cons_self)
      rw [List.foldl_cons, Nat.ofDigitChars_cons, value, Nat.mul_comm start 10]
      exact ih (fun d mem => marks d (List.mem_cons_of_mem c mem)) _
  rw [number, filter_decimal, digits _ (fun c => isDigit_of_mem_decimal),
    Nat.toString_eq_ofList_toDigits, String.toList_ofList]
  exact Nat.ofDigitChars_ten_toDigits

theorem signed_decimal (n : Nat) : signed (toString n).toList = (false, (toString n).toList) := by
  unfold signed
  split
  · rename_i digits
    cases isDigit_of_mem_decimal (n := n) (digits ▸ List.mem_cons_self)
  · rename_i digits
    cases isDigit_of_mem_decimal (n := n) (digits ▸ List.mem_cons_self)
  · rfl

theorem digitValue_lt (h : c.isDigit = true) : digitValue c < 10 := by
  rw [digitValue, if_pos h]
  simp only [Char.isDigit, ge_iff_le, Bool.and_eq_true, decide_eq_true_eq,
    UInt32.le_iff_toNat_le] at h
  have upper : c.toNat ≤ 57 := h.2
  omega

theorem wholeNumber_decimal (n : Nat) : wholeNumber 10 (toString n).toList = .integer n := by
  have marks : (toString n).toList.all (digitValue · < 10) = true := by
    rw [List.all_eq_true]
    exact fun c mem => decide_eq_true (digitValue_lt (isDigit_of_mem_decimal mem))
  have filled : (toString n).toList.isEmpty = false := by
    obtain ⟨c, cs, digits⟩ := exists_decimal_cons n
    rw [digits]
    rfl
  unfold wholeNumber
  rw [filter_decimal, signed_decimal]
  simp only [filled, marks, number_decimal]
  rfl

theorem decimal?_decimal (n : Nat) : decimal? (toString n).toList = some (.integer n) := by
  have whole : split '_' (toString n).toList = [(toString n).toList] :=
    split_of_not_mem fun mem => ne_underscore_of_isDigit (isDigit_of_mem_decimal mem) rfl
  have fits : underscoresFit 16 (toString n).toList = true := by
    rw [underscoresFit, whole]
    rfl
  unfold decimal?
  rw [signed_decimal, if_neg, if_pos fits, wholeNumber_decimal]
  rw [Bool.and_eq_true, decide_eq_true_eq, decide_eq_true_eq]
  exact fun ⟨other, zero⟩ => other (decimal_of_head? zero)

theorem numeral?_decimal (n : Nat) : numeral? (toString n).toList = some (.integer n) := by
  have rest : (toString n).toList.dropWhile Char.isDigit = [] := by
    rw [List.dropWhile_eq_nil_iff]
    exact fun c mem => isDigit_of_mem_decimal mem
  unfold numeral?
  rw [signed_decimal]
  simp only [rest]
  exact decimal?_decimal n

theorem scalar?_decimal (n : Nat) : scalar? (toString n).toList = some (.integer n) := by
  have other (word : String) (letter : word.toList.any (!·.isDigit) = true) :
      (toString n).toList ≠ word.toList := by
    intro same
    obtain ⟨c, mem, sign⟩ := List.any_eq_true.mp letter
    rw [isDigit_of_mem_decimal (n := n) (same ▸ mem)] at sign
    cases sign
  have first : (toString n).toList.head?.any (fun c => c.isDigit || c = '_') = true := by
    obtain ⟨c, cs, digits⟩ := exists_decimal_cons n
    have mark : c.isDigit = true := isDigit_of_mem_decimal (n := n) (digits ▸ List.mem_cons_self)
    rw [digits]
    simp [mark]
  unfold scalar?
  rw [signed_decimal, if_neg (other "true" (by decide)), if_neg (other "false" (by decide)),
    if_neg]
  · split
    · rename_i digits
      cases isDigit_of_mem_decimal (n := n) (c := 'x') (by rw [digits]; simp)
    · rename_i digits
      cases isDigit_of_mem_decimal (n := n) (c := 'o') (by rw [digits]; simp)
    · rename_i digits
      cases isDigit_of_mem_decimal (n := n) (c := 'b') (by rw [digits]; simp)
    · rw [if_pos first]
      exact numeral?_decimal n
  · rw [Bool.or_eq_true, decide_eq_true_eq, decide_eq_true_eq, not_or]
    exact ⟨other "inf" (by decide), other "nan" (by decide)⟩

end Decimal

theorem isScalarChar_of_isDigit (h : c.isDigit = true) : isScalarChar c = true := by
  by_contra sign
  simp only [isScalarChar, Bool.not_eq_true, Bool.not_eq_false', Bool.or_eq_true,
    decide_eq_true_eq, or_assoc] at sign
  rcases sign with rfl | rfl | rfl | rfl | rfl | rfl | rfl | rfl | rfl | rfl | rfl <;> cases h

theorem word_append (h : ∀ c ∈ cs, isScalarChar c = true) :
    word (cs ++ '\n' :: rest) = (cs, '\n' :: rest) := by
  have line_end : isScalarChar '\n' = false := rfl
  unfold word
  rw [List.takeWhile_append_of_pos h, List.dropWhile_append_of_pos h,
    List.takeWhile_cons_of_neg (by simp [line_end]),
    List.dropWhile_cons_of_neg (by simp [line_end]), List.append_nil]
  rfl

theorem value?_scalar {v : Value} (depth : Nat) (filled : cs ≠ [])
    (word_chars : ∀ c ∈ cs, isScalarChar c = true)
    (unquoted : cs.head? ≠ some '"' ∧ cs.head? ≠ some '\'') (h : scalar? cs = some v) :
    value? depth (cs ++ '\n' :: rest) = some (v, '\n' :: rest) := by
  obtain ⟨c, more, rfl⟩ := List.exists_cons_of_ne_nil filled
  have first : isScalarChar c = true := word_chars c List.mem_cons_self
  unfold value?
  split
  · rename_i bracket
    obtain rfl := (List.cons.inj bracket).1
    cases first
  · rename_i brace
    obtain rfl := (List.cons.inj brace).1
    cases first
  · rw [if_neg, word_append word_chars, h]
    · rfl
    · rw [Bool.or_eq_true, decide_eq_true_eq, decide_eq_true_eq, not_or]
      exact unquoted

theorem value?_number (depth n : Nat) (rest : List Char) :
    value? depth ((toString n).toList ++ '\n' :: rest) = some (.integer n, '\n' :: rest) := by
  obtain ⟨c, cs, digits⟩ := exists_decimal_cons n
  have first : c.isDigit = true := isDigit_of_mem_decimal (n := n) (digits ▸ List.mem_cons_self)
  apply value?_scalar depth
  · rw [digits]
    exact List.cons_ne_nil c cs
  · exact fun c mem => isScalarChar_of_isDigit (isDigit_of_mem_decimal mem)
  · rw [digits, List.head?_cons]
    constructor
    · rintro same
      obtain rfl := Option.some.inj same
      cases first
    · rintro same
      obtain rfl := Option.some.inj same
      cases first
  · exact scalar?_decimal n

theorem value?_flag (depth : Nat) (b : Bool) (rest : List Char) :
    value? depth ((toString b).toList ++ '\n' :: rest) = some (.bool b, '\n' :: rest) := by
  have letters : (toString b).toList.all isScalarChar = true := by cases b <;> decide
  apply value?_scalar depth
  · cases b <;> decide
  · exact fun c mem => List.all_eq_true.mp letters c mem
  · cases b <;> decide
  · cases b <;> rfl

/-- The character starts something that is looked at: it is no blank, no line end and no comment. -/
def Shows (c : Char) : Prop := c ≠ '\r' ∧ c ≠ '\n' ∧ isBlank c = false ∧ c ≠ '#'

instance (c : Char) : Decidable (Shows c) := inferInstanceAs (Decidable (_ ∧ _))

theorem afterFiller?_of_shows (h : Shows c) (cs : List Char) :
    afterFiller? false (c :: cs) = some (c :: cs) := by
  obtain ⟨not_return, not_lineFeed, filled, not_comment⟩ := h
  rw [afterFiller?]
  · rw [if_neg not_lineFeed, if_neg (by decide), if_neg (by simp [filled]), if_neg not_comment]
  · rintro more rfl
    exact absurd rfl not_return

theorem afterFiller?_lineFeed (cs : List Char) :
    afterFiller? false ('\n' :: cs) = afterFiller? false cs := by
  rw [afterFiller?]
  · rfl
  · rintro more same
    cases same

theorem afterFiller?_space (cs : List Char) :
    afterFiller? false (' ' :: cs) = afterFiller? false cs := by
  rw [afterFiller?]
  · rfl
  · rintro more same
    cases same

theorem exists_mark_of_quotation (s : String) :
    ∃ q more, quotation s = q :: more ∧ (q = '"' ∨ q = '\'') := by
  rw [quotation]
  cases formOf s.toList with
  | basic => exact ⟨_, _, rfl, .inl rfl⟩
  | literal => exact ⟨_, _, rfl, .inr rfl⟩
  | basicBlock => exact ⟨_, _, rfl, .inl rfl⟩
  | literalBlock => exact ⟨_, _, rfl, .inr rfl⟩

theorem value?_quotation (depth : Nat) (s : String) (rest : List Char)
    (double : rest.head? ≠ some '"') (single : rest.head? ≠ some '\'') :
    value? depth (quotation s ++ rest) = some (.text s, rest) := by
  have back := quotation?_quotation s rest double single
  obtain ⟨q, more, starts, mark⟩ := exists_mark_of_quotation s
  rw [starts] at back ⊢
  unfold value?
  split
  · rename_i bracket
    obtain rfl := (List.cons.inj bracket).1
    simp at mark
  · rename_i brace
    obtain rfl := (List.cons.inj brace).1
    simp at mark
  · rw [if_pos, back]
    · rfl
    · rcases mark with rfl | rfl <;> simp

theorem afterFiller?_quotation (s : String) (rest : List Char) :
    afterFiller? false (quotation s ++ rest) = some (quotation s ++ rest) := by
  obtain ⟨q, more, starts, mark⟩ := exists_mark_of_quotation s
  rw [starts]
  apply afterFiller?_of_shows
  rcases mark with rfl | rfl <;> decide

section Separated
variable {α : Type} {element? : List Char → Option (α × List Char)} {close : Char} {read : List α}
variable {a : α} {more after : List Char}

theorem separated?_close (ends : afterFiller? false cs = some (close :: rest)) :
    separated? element? close read cs = some (read.reverse, rest) := by
  rw [separated?, ends]
  simp

theorem separated?_last (begins : afterFiller? false cs = some (c :: more)) (other : c ≠ close)
    (element : element? (c :: more) = some (a, after))
    (ends : afterFiller? false after = some (close :: rest)) :
    separated? element? close read cs = some ((a :: read).reverse, rest) := by
  rw [separated?, begins]
  simp only [if_neg other, element, ends, if_pos]

theorem separated?_next (begins : afterFiller? false cs = some (c :: more)) (other : c ≠ close)
    (element : element? (c :: more) = some (a, after))
    (goes_on : afterFiller? false after = some (',' :: rest)) (comma : ',' ≠ close)
    (shorter : rest.length < cs.length) :
    separated? element? close read cs = separated? element? close (a :: read) rest := by
  rw [separated?, begins]
  simp only [if_neg other, element, goes_on, if_neg comma, if_pos, dif_pos shorter]

end Separated

theorem separated?_texts (depth : Nat) (read : List Value) (ss : List String)
    (rest : List Char) :
    separated? (value? depth) ']' read ('\n' :: (ss.flatMap (fun s => "    ".toList ++
        quotation s ++ [',', '\n']) ++ ']' :: rest)) = some (read.reverse ++ ss.map .text, rest) := by
  induction ss generalizing read with
  | nil =>
    have ends : afterFiller? false ('\n' :: ']' :: rest) = some (']' :: rest) := by
      rw [afterFiller?_lineFeed]
      exact afterFiller?_of_shows (by decide) rest
    rw [List.map_nil, List.append_nil]
    exact separated?_close ends
  | cons s ss ih =>
    generalize lines : ss.flatMap _ ++ ']' :: rest = after at ih
    have whole : '\n' :: ((s :: ss).flatMap (fun s => "    ".toList ++ quotation s ++
        [',', '\n']) ++ ']' :: rest) =
        '\n' :: ' ' :: ' ' :: ' ' :: ' ' :: (quotation s ++ ',' :: '\n' :: after) := by
      rw [← lines]
      simp
    obtain ⟨q, more, starts, mark⟩ := exists_mark_of_quotation s
    have begins : afterFiller? false
        ('\n' :: ' ' :: ' ' :: ' ' :: ' ' :: (quotation s ++ ',' :: '\n' :: after)) =
          some (q :: (more ++ ',' :: '\n' :: after)) := by
      rw [afterFiller?_lineFeed, afterFiller?_space, afterFiller?_space, afterFiller?_space,
        afterFiller?_space, afterFiller?_quotation, starts, List.cons_append]
    have element : value? depth (q :: (more ++ ',' :: '\n' :: after)) =
        some (.text s, ',' :: '\n' :: after) := by
      have back := value?_quotation depth s (',' :: '\n' :: after) (by simp) (by simp)
      rwa [starts, List.cons_append] at back
    have other : q ≠ ']' := by rcases mark with rfl | rfl <;> decide
    have next := ih (.text s :: read)
    rw [whole, separated?_next begins other element (afterFiller?_of_shows (by decide) _)
      (by decide) (by simp; omega), next]
    simp

/-- What is written behind a key, up to the end of its line. -/
theorem value?_layout (depth : Nat) (item : Item) (rest : List Char) :
    value? (depth + 1) (item.layout ++ '\n' :: rest) = some (item.value, '\n' :: rest) := by
  cases item with
  | text s => exact value?_quotation _ s ('\n' :: rest) (by simp) (by simp)
  | number n => exact value?_number _ n rest
  | flag b => exact value?_flag _ b rest
  | texts ss =>
    have listed {inside after : List Char} {vs : List Value}
        (items : separated? (value? depth) ']' [] inside = some (vs, after)) :
        value? (depth + 1) ('[' :: inside) = some (.array vs, after) := by
      rw [value?, items]
      rfl
    cases ss with
    | nil => exact listed (separated?_close (afterFiller?_of_shows (by decide) _))
    | cons s ss =>
      cases ss with
      | nil =>
        obtain ⟨q, more, starts, mark⟩ := exists_mark_of_quotation s
        have whole : Item.layout (.texts [s]) ++ '\n' :: rest =
            '[' :: (quotation s ++ ']' :: '\n' :: rest) := by
          simp [Item.layout]
        have other : q ≠ ']' := by rcases mark with rfl | rfl <;> decide
        have element := value?_quotation depth s (']' :: '\n' :: rest) (by simp) (by simp)
        have begins := afterFiller?_quotation s (']' :: '\n' :: rest)
        rw [whole]
        apply listed
        rw [starts, List.cons_append] at element begins ⊢
        exact separated?_last begins other element (afterFiller?_of_shows (by decide) _)
      | cons s' ss =>
        have whole : Item.layout (.texts (s :: s' :: ss)) ++ '\n' :: rest =
            '[' :: '\n' :: ((s :: s' :: ss).flatMap (fun s => "    ".toList ++ quotation s ++
              [',', '\n']) ++ ']' :: '\n' :: rest) := by
          simp [Item.layout]
        rw [whole]
        exact listed (separated?_texts depth [] (s :: s' :: ss) ('\n' :: rest))

end LintRepair.Toml
