import LintRepair.Proofs.Toml.Item
import LintRepair.Tools.Number

/-!
The numbers of programs are those of words with 64 bits. What does not fit is brought to the nearest
number that does, or to the one with the same lowest bits; a number that is printed is read back.
-/
namespace LintRepair.Tools

variable {n m : Int}

theorem fits_iff : fits n = true ↔ Int64.minValue.toInt ≤ n ∧ n ≤ Int64.maxValue.toInt := by
  have low : Int64.minValue.toInt = least := by decide
  have high : Int64.maxValue.toInt = largest := by decide
  rw [fits, Bool.and_eq_true, decide_eq_true_eq, decide_eq_true_eq, low, high]

theorem fits_toInt (x : Int64) : fits x.toInt = true :=
  fits_iff.mpr ⟨x.minValue_le_toInt, x.toInt_le⟩

theorem exists_word_of_fits (h : fits n = true) : ∃ x : Int64, x.toInt = n := by
  obtain ⟨low, high⟩ := fits_iff.mp h
  rw [Int64.toInt_minValue] at low
  rw [Int64.toInt_maxValue] at high
  exact ⟨.ofInt n, Int64.toInt_ofInt_of_le low (by omega)⟩

theorem clamped_of_fits (h : fits n = true) : clamped n = n := by
  simp only [fits, Bool.and_eq_true, decide_eq_true_eq] at h
  rw [clamped, if_neg (by omega), if_neg (by omega)]

theorem fits_clamped (n : Int) : fits (clamped n) = true := by
  unfold clamped
  split
  · decide
  · split
    · decide
    · simp only [fits, Bool.and_eq_true, decide_eq_true_eq]
      omega

/-- No number that fits is nearer. -/
theorem clamped_nearest (n : Int) (h : fits m = true) :
    (clamped n - n).natAbs ≤ (m - n).natAbs := by
  simp only [fits, Bool.and_eq_true, decide_eq_true_eq] at h
  unfold clamped
  split
  · omega
  · split <;> omega

theorem wrapped_eq (n : Int) : wrapped n = (Int64.ofInt n).toInt := by
  have low_bits : n.emod wordCount = n % ((2 ^ 64 : Nat) : Int) := rfl
  rw [Int64.toInt_ofInt, Int.bmod_def, wrapped, low_bits]
  unfold wordCount largest Int64.size
  split <;> split <;> omega

theorem fits_wrapped (n : Int) : fits (wrapped n) = true := wrapped_eq n ▸ fits_toInt _

theorem wrapped_of_fits (h : fits n = true) : wrapped n = n := by
  obtain ⟨x, rfl⟩ := exists_word_of_fits h
  rw [wrapped_eq, Int64.ofInt_toInt]

theorem unsigned_toInt (x : Int64) : unsigned x.toInt = x.toBitVec.toNat := by
  have same : (BitVec.ofInt 64 x.toInt).toNat = x.toBitVec.toNat := by
    rw [Int64.toInt, BitVec.ofInt_toInt]
  rw [← same, BitVec.toNat_ofInt]
  rfl

section Printed
open Toml

theorem digit_bounds {c : Char} (h : c.isDigit = true) : '0' ≤ c ∧ c ≤ '9' := by
  simp only [Char.isDigit, Bool.and_eq_true, decide_eq_true_eq] at h
  exact h

theorem digitValue?_of_isDigit {c : Char} (h : c.isDigit = true) :
    digitValue? c = some (c.toNat - 48) := if_pos (by simpa using digit_bounds h)

theorem isDigitOf_ten {c : Char} (h : c.isDigit = true) : isDigitOf 10 c = true := by
  have high : c.toNat ≤ 57 := (digit_bounds h).2
  rw [isDigitOf, digitValue?_of_isDigit h, Option.any_some, decide_eq_true_eq]
  omega

theorem digitsValue_decimal (n : Nat) : digitsValue 10 (toString n).toList = n := by
  have digits (cs : List Char) (marks : ∀ c ∈ cs, c.isDigit = true) (start : Nat) :
      cs.foldl (fun n c => n * 10 + (digitValue? c).getD 0) start =
        Nat.ofDigitChars 10 cs start := by
    induction cs generalizing start with
    | nil => rfl
    | cons c cs ih =>
      rw [List.foldl_cons, Nat.ofDigitChars_cons, digitValue?_of_isDigit (marks c List.mem_cons_self),
        Nat.mul_comm start 10]
      exact ih (fun d mem => marks d (List.mem_cons_of_mem c mem)) _
  rw [digitsValue, digits _ fun c => isDigit_of_mem_decimal, Nat.toString_eq_ofList_toDigits,
    String.toList_ofList]
  exact Nat.ofDigitChars_ten_toDigits

theorem basePrefix_decimal (n : Nat) :
    n = 0 ∨ basePrefix (toString n).toList = (10, (toString n).toList) := by
  obtain ⟨c, cs, shape⟩ := exists_decimal_cons n
  by_cases zero : c = '0'
  · left
    have value := digitsValue_decimal n
    rw [decimal_of_head? (n := n) (by rw [shape, zero]; rfl)] at value
    exact value.symm
  · right
    rw [shape]
    unfold basePrefix
    split
    · simp_all
    · simp_all
    · rfl

/-- The digits of a printed number, behind blanks and a sign. -/
theorem scanNumber_of_signOf {cs : List Char} {n : Nat} (isNegative isDecimal : Bool)
    (sign : signOf (cs.dropWhile isByteBlank) = (isNegative, (toString n).toList)) :
    scanNumber isDecimal cs = ⟨if isNegative then -n else n, [], true⟩ := by
  obtain ⟨c, rest, shape⟩ := exists_decimal_cons n
  have ten : (toString n).toList.takeWhile (isDigitOf 10) = (toString n).toList :=
    List.takeWhile_eq_self_iff.mpr fun c mem => isDigitOf_ten (isDigit_of_mem_decimal mem)
  unfold scanNumber
  rw [sign]
  dsimp only
  cases isDecimal with
  | true =>
    rw [if_pos rfl]
    dsimp only
    rw [ten, digitsValue_decimal, List.drop_length, shape]
    rfl
  | false =>
    rcases basePrefix_decimal n with rfl | base
    · cases isNegative <;> rfl
    · rw [if_neg Bool.false_ne_true, base]
      dsimp only
      rw [ten, digitsValue_decimal, List.drop_length, shape]
      rfl

theorem signOf_of_isDigit {c : Char} (h : c.isDigit = true) (cs : List Char) :
    signOf (c :: cs) = (false, c :: cs) := by
  unfold signOf
  split
  · simp_all
  · simp_all
  · rfl

theorem isByteBlank_of_isDigit {c : Char} (h : c.isDigit = true) : isByteBlank c = false := by
  have low : 48 ≤ c.toNat := (digit_bounds h).1
  rw [Bool.eq_false_iff]
  intro blank
  simp only [isByteBlank, Bool.or_eq_true, Bool.and_eq_true, decide_eq_true_eq] at blank
  rcases blank with rfl | ⟨-, high⟩
  · exact absurd low (by decide)
  · have high : c.toNat ≤ 13 := high
    omega

/-- A number that is printed is read back, whether the base is fixed or told from the digits. -/
theorem scanNumber_toString (isDecimal : Bool) (n : Int) :
    scanNumber isDecimal (toString n).toList = ⟨n, [], true⟩ := by
  cases n with
  | ofNat n =>
    obtain ⟨c, rest, shape⟩ := exists_decimal_cons n
    have digit : c.isDigit = true := isDigit_of_mem_decimal (shape ▸ List.mem_cons_self)
    refine scanNumber_of_signOf (n := n) false isDecimal ?_
    change signOf ((toString n).toList.dropWhile isByteBlank) = _
    rw [shape, List.dropWhile_cons_of_neg (by simp [isByteBlank_of_isDigit digit]),
      signOf_of_isDigit digit]
  | negSucc n =>
    have written : (toString (Int.negSucc n)).toList = '-' :: (toString (n + 1)).toList := by
      change ("-" ++ toString (n + 1)).toList = _
      rw [String.toList_append]
      rfl
    rw [written]
    exact scanNumber_of_signOf (n := n + 1) true isDecimal rfl

end Printed

end LintRepair.Tools
