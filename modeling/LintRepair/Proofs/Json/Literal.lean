import LintRepair.Json.Token
import Mathlib.Data.List.Forall2

/-!
String literals of JSON and what they say. A part of a literal is a character as it is, one named
behind a backslash, or four digits in base sixteen; a character beyond those takes two such parts,
the halves of a surrogate pair. However a text is spelled, it is read back, and a literal in which
some half stands alone meant nothing.
-/
namespace LintRepair.Json

/-- A digit of this value in base sixteen, in either case. -/
def IsHexDigit (n : Nat) (c : Char) : Prop :=
  "0123456789abcdef".toList[n]? = some c ∨ "0123456789ABCDEF".toList[n]? = some c

/-- Four digits in base sixteen and the number that they make. -/
inductive IsHexUnit : Nat → List Char → Prop where
  | digits {k l m n : Nat} {a b c d : Char} (first : IsHexDigit k a) (second : IsHexDigit l b)
      (third : IsHexDigit m c) (fourth : IsHexDigit n d) :
      IsHexUnit (k * 4096 + l * 256 + m * 16 + n) [a, b, c, d]

/-- The letters and signs that stand behind a backslash, and what they stand for. -/
def shortForms : List (Char × Char) :=
  [('"', '"'), ('\\', '\\'), ('/', '/'), ('b', '\x08'), ('f', '\x0c'), ('n', '\n'), ('r', '\r'),
    ('t', '\t')]

/-- The ways to write a part of a literal. -/
inductive Piece.Spelled : Piece → List Char → Prop where
  | plain {c : Char} (visible : ' ' ≤ c) (not_quote : c ≠ '"') (not_backslash : c ≠ '\\') :
      Spelled (.char c) [c]
  | short {e c : Char} (named : (e, c) ∈ shortForms) : Spelled (.char c) ['\\', e]
  | unit {c : Char} {digits : List Char} (spelled : IsHexUnit c.toNat digits) :
      Spelled (.char c) ('\\' :: 'u' :: digits)
  | half {n : Nat} {digits : List Char} (spelled : IsHexUnit n digits) (above : 0xD800 ≤ n)
      (below : n < 0xE000) : Spelled (.half n) ('\\' :: 'u' :: digits)

/-- The first half of the surrogate pair of a character beyond four digits. -/
def highHalf (c : Char) : Nat := 0xD800 + (c.toNat - 0x10000) / 0x400

def lowHalf (c : Char) : Nat := 0xDC00 + (c.toNat - 0x10000) % 0x400

/-- The characters that the parts of a literal stand for: one each, but one for the two halves of
its surrogate pair. -/
inductive Denotes : List Piece → List Char → Prop where
  | nil : Denotes [] []
  | char {ps : List Piece} {cs : List Char} (c : Char) (more : Denotes ps cs) :
      Denotes (.char c :: ps) (c :: cs)
  | pair {ps : List Piece} {cs : List Char} {c : Char} (far : 0x10000 ≤ c.toNat)
      (more : Denotes ps cs) :
      Denotes (.half (highHalf c) :: .half (lowHalf c) :: ps) (c :: cs)

/-- The ways to write a literal between its quotes. It stands for a text if its parts say one. -/
inductive Literal.Spelled : Literal → List Char → Prop where
  | text {s : String} {ps : List Piece} {parts : List (List Char)}
      (spelled : List.Forall₂ Piece.Spelled ps parts) (meant : Denotes ps s.toList) :
      Spelled (some s) parts.flatten
  | broken {ps : List Piece} {parts : List (List Char)}
      (spelled : List.Forall₂ Piece.Spelled ps parts) (silent : ∀ cs, ¬ Denotes ps cs) :
      Spelled none parts.flatten

variable {n : Nat} {c : Char} {p : Piece} {ps read : List Piece} {cs part rest : List Char}
variable {parts : List (List Char)}

theorem hexDigit?_of_isHexDigit (h : IsHexDigit n c) : hexDigit? c = some n := by
  have table : ∀ n < 16, "0123456789abcdef".toList[n]?.bind hexDigit? = some n ∧
      "0123456789ABCDEF".toList[n]?.bind hexDigit? = some n := by decide
  rcases h with h | h
  · have value := (table n (List.getElem?_eq_some_iff.mp h).1).1
    rwa [h] at value
  · have value := (table n (List.getElem?_eq_some_iff.mp h).1).2
    rwa [h] at value

theorem literal?_unit (h : IsHexUnit n part) (read : List Piece) (rest : List Char) :
    literal? read ('\\' :: 'u' :: part ++ rest) = literal? (Piece.ofUnit n :: read) rest := by
  obtain ⟨first, second, third, fourth⟩ := h
  rename_i k l m n a b c d
  have value : hexUnit? a b c d = some (k * 4096 + l * 256 + m * 16 + n) := by
    rw [hexUnit?, hexDigit?_of_isHexDigit first, hexDigit?_of_isHexDigit second,
      hexDigit?_of_isHexDigit third, hexDigit?_of_isHexDigit fourth]
    simp only [Option.some.injEq]
    omega
  show literal? read ('\\' :: 'u' :: a :: b :: c :: d :: rest) = _
  rw [literal?, value]

theorem toNat_bounds (c : Char) : (c.toNat < 0xD800 ∨ 0xE000 ≤ c.toNat) ∧ c.toNat < 0x110000 := by
  have valid := c.valid
  simp only [UInt32.isValidChar, Nat.isValidChar] at valid
  show (c.val.toNat < _ ∨ _ ≤ c.val.toNat) ∧ c.val.toNat < _
  omega

theorem ofUnit_toNat (c : Char) : Piece.ofUnit c.toNat = .char c := by
  have outside := toNat_bounds c
  rw [Piece.ofUnit, if_neg, Char.ofNat_toNat]
  simp only [isHighSurrogate, isLowSurrogate, Bool.or_eq_true, Bool.and_eq_true, decide_eq_true_eq]
  omega

theorem ofUnit_half (above : 0xD800 ≤ n) (below : n < 0xE000) : Piece.ofUnit n = .half n := by
  rw [Piece.ofUnit, if_pos]
  simp only [isHighSurrogate, isLowSurrogate, Bool.or_eq_true, Bool.and_eq_true, decide_eq_true_eq]
  omega

theorem literal?_quote (read : List Piece) (rest : List Char) :
    literal? read ('"' :: rest) = some (Literal.ofPieces read.reverse, rest) := by
  rw [literal?]

/-- A part of a literal is read in whichever way it is written. -/
theorem literal?_part (h : p.Spelled part) (read : List Piece) (rest : List Char) :
    literal? read (part ++ rest) = literal? (p :: read) rest := by
  cases h with
  | plain visible not_quote not_backslash =>
    rw [List.singleton_append, literal?]
    · rw [if_neg]
      simp [not_backslash, Char.not_lt.mpr visible]
    · exact not_quote
    · rintro a b c d more rfl
      exact absurd rfl not_backslash
    · rintro e more rfl
      exact absurd rfl not_backslash
  | @short e c named =>
    have stands : ∀ f ∈ shortForms, escape? f.1 = some f.2 ∧ f.1 ≠ 'u' := by decide
    obtain ⟨escaped, not_unit⟩ := stands _ named
    show literal? read ('\\' :: e :: rest) = _
    rw [literal?]
    · simp only [escaped]
    · rintro a b c d more rfl
      exact absurd rfl not_unit
  | unit spelled => rw [literal?_unit spelled, ofUnit_toNat]
  | half spelled above below => rw [literal?_unit spelled, ofUnit_half above below]

theorem literal?_parts (h : List.Forall₂ Piece.Spelled ps parts) (read : List Piece)
    (rest : List Char) :
    literal? read (parts.flatten ++ '"' :: rest) =
      some (Literal.ofPieces (read.reverse ++ ps), rest) := by
  induction h generalizing read with
  | nil => rw [List.flatten_nil, List.nil_append, literal?_quote, List.append_nil]
  | cons first _ ih =>
    rw [List.flatten_cons, List.append_assoc, literal?_part first, ih, List.reverse_cons,
      List.append_assoc, List.singleton_append]

/-- Two halves are those of a character exactly if the first opens a pair and the second closes
one. -/
theorem halves_iff {high low : Nat} :
    (0x10000 ≤ c.toNat ∧ high = highHalf c ∧ low = lowHalf c) ↔
      (isHighSurrogate high && isLowSurrogate low) = true ∧ pairChar high low = c := by
  simp only [isHighSurrogate, isLowSurrogate, Bool.and_eq_true, decide_eq_true_eq, highHalf,
    lowHalf]
  have bounds := toNat_bounds c
  constructor
  · intro ⟨far, first, second⟩
    have value : 0x10000 + (high - 0xD800) * 0x400 + (low - 0xDC00) = c.toNat := by omega
    refine ⟨by omega, ?_⟩
    rw [pairChar, value, Char.ofNat_toNat]
  · intro ⟨halves, same⟩
    have valid : (0x10000 + (high - 0xD800) * 0x400 + (low - 0xDC00)).isValidChar := by
      right
      omega
    have value : (pairChar high low).toNat =
        0x10000 + (high - 0xD800) * 0x400 + (low - 0xDC00) := by
      rw [pairChar, Char.ofNat, dif_pos valid]
      rfl
    rw [same] at value
    omega

theorem joinedAfter_eq_some_iff {read : List Char} :
    joinedAfter read ps = some cs ↔ ∃ more, Denotes ps more ∧ cs = read.reverse ++ more := by
  fun_induction joinedAfter read ps with
  | case1 read =>
    constructor
    · intro h
      exact ⟨[], .nil, by simpa using h.symm⟩
    · rintro ⟨more, meant, rfl⟩
      cases meant
      simp
  | case2 read c ps ih =>
    rw [ih]
    constructor
    · rintro ⟨more, meant, rfl⟩
      exact ⟨c :: more, .char c meant, by simp⟩
    · rintro ⟨more, meant, rfl⟩
      cases meant with
      | char _ meant => exact ⟨_, meant, by simp⟩
  | case3 read n m ps paired ih =>
    rw [ih]
    constructor
    · rintro ⟨more, meant, rfl⟩
      obtain ⟨far, first, second⟩ := halves_iff.mpr ⟨paired, rfl⟩
      refine ⟨pairChar n m :: more, ?_, by simp⟩
      have whole := Denotes.pair far meant
      rwa [← first, ← second] at whole
    · rintro ⟨more, meant, rfl⟩
      generalize whole : Piece.half n :: .half m :: ps = qs at meant
      cases meant with
      | nil => cases whole
      | char => cases whole
      | @pair _ cs c far meant =>
        simp only [List.cons.injEq, Piece.half.injEq] at whole
        obtain ⟨first, second, rfl⟩ := whole
        obtain ⟨-, same⟩ := halves_iff.mp ⟨far, first, second⟩
        exact ⟨cs, meant, by simp [same]⟩
  | case4 read n m ps unpaired =>
    constructor
    · intro h
      cases h
    · rintro ⟨more, meant, rfl⟩
      generalize whole : Piece.half n :: .half m :: ps = qs at meant
      cases meant with
      | nil => cases whole
      | char => cases whole
      | @pair _ cs c far meant =>
        simp only [List.cons.injEq, Piece.half.injEq] at whole
        obtain ⟨first, second, rfl⟩ := whole
        exact absurd (halves_iff.mp ⟨far, first, second⟩).1 unpaired
  | case5 read n ps alone =>
    constructor
    · intro h
      cases h
    · rintro ⟨more, meant, rfl⟩
      cases meant with
      | pair far meant => exact absurd rfl (alone _ _)

/-- A literal is read as what it stands for, in whichever way it is written. -/
theorem literal?_spelled {l : Literal} (h : l.Spelled cs) (rest : List Char) :
    literal? [] (cs ++ '"' :: rest) = some (l, rest) := by
  cases h with
  | @text s ps parts spelled meant =>
    have joined : joinedAfter [] ps = some s.toList :=
      joinedAfter_eq_some_iff.mpr ⟨s.toList, meant, rfl⟩
    rw [literal?_parts spelled, List.reverse_nil, List.nil_append, Literal.ofPieces, joined,
      Option.map_some, String.ofList_toList]
  | @broken ps parts spelled silent =>
    have unjoined : joinedAfter [] ps = none := by
      rw [Option.eq_none_iff_forall_ne_some]
      intro cs joined
      obtain ⟨more, meant, -⟩ := joinedAfter_eq_some_iff.mp joined
      exact silent more meant
    rw [literal?_parts spelled, List.reverse_nil, List.nil_append, Literal.ofPieces, unjoined,
      Option.map_none]

end LintRepair.Json
