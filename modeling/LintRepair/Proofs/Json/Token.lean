import LintRepair.Proofs.Json.Literal
import LintRepair.Proofs.Text.Trim
import Mathlib.Data.List.Chain

/-!
JSON texts as tokens with blanks between them. A mark, a word and a literal end by themselves. A
number goes on as long as it can, so its end shows only in what follows it, and two numbers must
not stand side by side.
-/
namespace LintRepair.Json
open Text

/-- At least one digit. -/
structure IsDigitRun (ds : List Char) : Prop where
  filled : ds ≠ []
  digits : ∀ d ∈ ds, d.isDigit = true

/-- The whole part of a number has no zero before another digit. -/
inductive IsWhole : List Char → Prop where
  | zero : IsWhole ['0']
  | run {c : Char} {ds : List Char} (digits : IsDigitRun (c :: ds)) (not_zero : c ≠ '0') :
      IsWhole (c :: ds)

/-- The decimals of a number, if it has any. -/
inductive IsDecimals : List Char → Prop where
  | none : IsDecimals []
  | point {ds : List Char} (digits : IsDigitRun ds) : IsDecimals ('.' :: ds)

/-- The power of ten of a number, if it has one. -/
inductive IsPower : List Char → Prop where
  | none : IsPower []
  | power {e : Char} {sign ds : List Char} (letter : e = 'e' ∨ e = 'E')
      (signed : sign = [] ∨ sign = ['+'] ∨ sign = ['-']) (digits : IsDigitRun ds) :
      IsPower (e :: (sign ++ ds))

/-- A number as the grammar of JSON spells it. -/
inductive IsNumeral : List Char → Prop where
  | positive {whole decimals power : List Char} (w : IsWhole whole) (d : IsDecimals decimals)
      (p : IsPower power) : IsNumeral (whole ++ (decimals ++ power))
  | negative {whole decimals power : List Char} (w : IsWhole whole) (d : IsDecimals decimals)
      (p : IsPower power) : IsNumeral ('-' :: (whole ++ (decimals ++ power)))

/-- The ways to write a token. -/
inductive Token.Spelled : Token → List Char → Prop where
  | openArray : Spelled .openArray ['[']
  | closeArray : Spelled .closeArray [']']
  | openObject : Spelled .openObject ['\x7b']
  | closeObject : Spelled .closeObject ['\x7d']
  | colon : Spelled .colon [':']
  | comma : Spelled .comma [',']
  | nullWord : Spelled .null ['n', 'u', 'l', 'l']
  | trueWord : Spelled (.bool true) ['t', 'r', 'u', 'e']
  | falseWord : Spelled (.bool false) ['f', 'a', 'l', 's', 'e']
  | number {n : String} (numeral : IsNumeral n.toList) : Spelled (.number n) n.toList
  | text {l : Literal} {cs : List Char} (literal : l.Spelled cs) :
      Spelled (.text l) ('"' :: (cs ++ ['"']))

/-- Tokens in a text, with any blanks before, between and behind them. -/
inductive Written : List Token → List Char → Prop where
  | nil {blanks : List Char} (blank : ∀ c ∈ blanks, isBlank c = true) : Written [] blanks
  | cons {t : Token} {ts : List Token} {blanks cs rest : List Char}
      (blank : ∀ c ∈ blanks, isBlank c = true) (spelled : t.Spelled cs) (more : Written ts rest) :
      Written (t :: ts) (blanks ++ (cs ++ rest))

def Token.isNumber : Token → Bool
  | .number _ => true
  | _ => false

/-- No number stands right behind another one. -/
def Apart (ts : List Token) : Prop :=
  ts.IsChain fun a b => ¬ (a.isNumber = true ∧ b.isNumber = true)

variable {t : Token} {ts : List Token} {c : Char} {cs ds rest whole decimals power : List Char}

theorem isDigitRun_singleton (digit : c.isDigit = true) : IsDigitRun [c] :=
  ⟨List.cons_ne_nil _ _, List.forall_mem_singleton.mpr digit⟩

theorem IsDigitRun.isDigits (h : IsDigitRun ds) : isDigits ds = true := by
  rw [Json.isDigits, Bool.and_eq_true]
  constructor
  · simpa using h.filled
  · exact List.all_eq_true.mpr h.digits

theorem IsDigitRun.head?_ne (h : IsDigitRun ds) (sign : c.isDigit = false) : ds.head? ≠ some c := by
  intro first
  rw [h.digits c (List.mem_of_head? first)] at sign
  cases sign

theorem isExponent_of_isPower (h : IsPower power) : isExponent power = true := by
  cases h with
  | none => rfl
  | @power e sign ds letter signed digits =>
    have whole : ((decide (e = 'e') || decide (e = 'E')) && isDigits ds) = true := by
      rw [digits.isDigits, Bool.and_true, Bool.or_eq_true, decide_eq_true_eq, decide_eq_true_eq]
      exact letter
    rcases signed with rfl | rfl | rfl
    · have not_plus := digits.head?_ne (c := '+') rfl
      have not_minus := digits.head?_ne (c := '-') rfl
      rw [List.nil_append, isExponent]
      · exact whole
      · rintro more rfl
        exact not_plus rfl
      · rintro more rfl
        exact not_minus rfl
    · exact whole
    · exact whole

theorem isDigit_of_head?_power (h : IsPower power) :
    ∀ c, power.head? = some c → c.isDigit = false := by
  cases h with
  | none => nofun
  | power letter signed digits =>
    rintro c first
    obtain rfl := Option.some.inj first
    rcases letter with rfl | rfl
    · rfl
    · rfl

theorem isFraction_append (d : IsDecimals decimals) (p : IsPower power) :
    isFraction (decimals ++ power) = true := by
  cases d with
  | none =>
    have exponent := isExponent_of_isPower p
    cases p with
    | none => rfl
    | power letter signed digits =>
      rw [List.nil_append, isFraction]
      · exact exponent
      · rintro more same
        rcases letter with rfl | rfl
        · cases same
        · cases same
  | @point ds digits =>
    have stop := isDigit_of_head?_power p
    rw [List.cons_append, isFraction, takeWhile_append_of_head? stop,
      dropWhile_append_of_head? stop, List.takeWhile_eq_self_iff.mpr digits.digits,
      List.dropWhile_eq_nil_iff.mpr digits.digits, List.nil_append, isExponent_of_isPower p]
    simpa using digits.filled

theorem isMagnitude_append (w : IsWhole whole) (d : IsDecimals decimals) (p : IsPower power) :
    isMagnitude (whole ++ (decimals ++ power)) = true := by
  have fraction := isFraction_append d p
  cases w with
  | zero => exact fraction
  | @run c ds digits not_zero =>
    have stop : ∀ c, (decimals ++ power).head? = some c → c.isDigit = false := by
      cases d with
      | none => exact isDigit_of_head?_power p
      | point =>
        rintro c first
        obtain rfl := Option.some.inj first
        rfl
    rw [List.cons_append, isMagnitude, ← List.cons_append, takeWhile_append_of_head? stop,
      dropWhile_append_of_head? stop, List.takeWhile_eq_self_iff.mpr digits.digits,
      List.dropWhile_eq_nil_iff.mpr digits.digits, List.nil_append, fraction]
    · rfl
    · intro more same
      exact not_zero (List.cons.inj same).1

theorem IsWhole.isDigitRun (w : IsWhole whole) : IsDigitRun whole := by
  cases w with
  | zero => exact isDigitRun_singleton rfl
  | run digits => exact digits

theorem isNumber_of_isNumeral (h : IsNumeral cs) : isNumber cs = true := by
  cases h with
  | negative w d p => exact isMagnitude_append w d p
  | positive w d p =>
    have magnitude := isMagnitude_append w d p
    have run := w.isDigitRun
    cases w with
    | zero => exact magnitude
    | @run c ds digits not_zero =>
      rw [isNumber]
      · exact magnitude
      · intro more same
        exact run.head?_ne (c := '-') rfl (congrArg List.head? (congrArg (List.take 1) same))

theorem isNumberChar_of_isDigit (h : c.isDigit = true) : isNumberChar c = true := by
  simp [isNumberChar, h]

/-- A number is made of characters that stand in numbers. -/
theorem isNumberChar_of_isNumeral (h : IsNumeral cs) : ∀ c ∈ cs, isNumberChar c = true := by
  have digits {ds : List Char} (run : IsDigitRun ds) : ∀ c ∈ ds, isNumberChar c = true :=
    fun c mem => isNumberChar_of_isDigit (run.digits c mem)
  have positive {whole decimals power : List Char} (w : IsWhole whole) (d : IsDecimals decimals)
      (p : IsPower power) : ∀ c ∈ whole ++ (decimals ++ power), isNumberChar c = true := by
    intro c mem
    rcases List.mem_append.mp mem with mem | mem
    · exact digits w.isDigitRun c mem
    rcases List.mem_append.mp mem with mem | mem
    · cases d with
      | none => cases mem
      | point run =>
        rcases List.mem_cons.mp mem with rfl | mem
        · rfl
        · exact digits run c mem
    · cases p with
      | none => cases mem
      | power letter signed run =>
        rcases List.mem_cons.mp mem with rfl | mem
        · rcases letter with rfl | rfl
          · rfl
          · rfl
        rcases List.mem_append.mp mem with mem | mem
        · rcases signed with rfl | rfl | rfl
          · cases mem
          · exact List.mem_singleton.mp mem ▸ rfl
          · exact List.mem_singleton.mp mem ▸ rfl
        · exact digits run c mem
  cases h with
  | positive w d p => exact positive w d p
  | negative w d p =>
    intro c mem
    rcases List.mem_cons.mp mem with rfl | mem
    · rfl
    · exact positive w d p c mem

theorem IsNumeral.ne_nil (h : IsNumeral cs) : cs ≠ [] := by
  cases h with
  | positive w d p => simp [w.isDigitRun.filled]
  | negative w d p => exact List.cons_ne_nil _ _

/-- How a written token starts: with no blank, and with a character of numbers only if it is one. -/
theorem Token.Spelled.exists_cons (h : t.Spelled cs) :
    ∃ c more, cs = c :: more ∧ isBlank c = false ∧ isNumberChar c = t.isNumber := by
  cases h with
  | @number n numeral =>
    have chars := isNumberChar_of_isNumeral numeral
    obtain ⟨c, more, start⟩ := List.exists_cons_of_ne_nil numeral.ne_nil
    have first : isNumberChar c = true := chars c (start ▸ List.mem_cons_self)
    refine ⟨c, more, start, ?_, first⟩
    rw [Bool.eq_false_iff]
    intro blank
    simp only [isBlank, Bool.or_eq_true, decide_eq_true_eq] at blank
    rcases blank with ((rfl | rfl) | rfl) | rfl
    all_goals cases first
  | _ => exact ⟨_, _, rfl, rfl, rfl⟩

theorem first?_of_isNumberChar (h : isNumberChar c = true) :
    first? (c :: rest) = number? (c :: rest) := by
  have other {d : Char} (sign : isNumberChar d = false) : c ≠ d := by
    rintro rfl
    rw [h] at sign
    cases sign
  have unmarked : mark? c = none := by
    rw [mark?, if_neg (other rfl), if_neg (other rfl), if_neg (other rfl), if_neg (other rfl),
      if_neg (other rfl), if_neg (other rfl)]
  rw [first?, unmarked]
  simp only [if_neg (other (d := '"') rfl), if_pos h]

/-- The first token is read in whichever way it is written, if a number ends where it is to end. -/
theorem first?_spelled (h : t.Spelled cs)
    (ends : t.isNumber = true → ∀ c, rest.head? = some c → isNumberChar c = false) :
    first? (cs ++ rest) = some (t, rest) := by
  cases h with
  | @number n numeral =>
    obtain ⟨c, more, start, -, first⟩ := (Token.Spelled.number numeral).exists_cons
    have stop := ends rfl
    have chars := isNumberChar_of_isNumeral numeral
    have number : number? (n.toList ++ rest) = some (.number n, rest) := by
      rw [number?, takeWhile_append_of_head? stop, dropWhile_append_of_head? stop,
        List.takeWhile_eq_self_iff.mpr chars, List.dropWhile_eq_nil_iff.mpr chars,
        if_pos (isNumber_of_isNumeral numeral), String.ofList_toList, List.nil_append]
    rw [start, List.cons_append] at number ⊢
    rw [first?_of_isNumberChar first, number]
  | @text l cs literal =>
    show (literal? [] ((cs ++ ['"']) ++ rest)).map _ = _
    rw [List.append_assoc, List.singleton_append, literal?_spelled literal, Option.map_some]
  | _ => rfl

theorem tokensAfter_blanks {blanks : List Char} (blank : ∀ c ∈ blanks, isBlank c = true)
    (read : List Token) : tokensAfter read blanks = some read.reverse := by
  have skipped : blanks.dropWhile isBlank = [] := List.dropWhile_eq_nil_iff.mpr blank
  unfold tokensAfter
  split
  · rfl
  · rename_i more
    rw [skipped] at more
    cases more

theorem tokensAfter_token {blanks : List Char} (blank : ∀ c ∈ blanks, isBlank c = true)
    (visible : ∃ c more, cs = c :: more ∧ isBlank c = false) (first : first? cs = some (t, rest))
    (read : List Token) : tokensAfter read (blanks ++ cs) = tokensAfter (t :: read) rest := by
  obtain ⟨c, more, rfl, shows⟩ := visible
  have skipped : (blanks ++ c :: more).dropWhile isBlank = c :: more :=
    dropWhile_append_cons blank shows
  rw [tokensAfter]
  split
  · rename_i none
    rw [skipped] at none
    cases none
  · rename_i start
    rw [skipped] at start
    obtain ⟨rfl, rfl⟩ := List.cons.inj start
    split
    · rename_i none
      rw [first] at none
      cases none
    · rename_i some
      rw [first] at some
      obtain ⟨rfl, rfl⟩ := Prod.mk.inj (Option.some.inj some)
      rfl

/-- Behind a number comes a blank, or a token that is no number. -/
theorem Written.head?_of_apart (h : Written ts cs) (number : t.isNumber = true)
    (apart : Apart (t :: ts)) : ∀ c, cs.head? = some c → isNumberChar c = false := by
  have blankly {c : Char} (blank : isBlank c = true) : isNumberChar c = false := by
    simp only [isBlank, Bool.or_eq_true, decide_eq_true_eq] at blank
    rcases blank with ((rfl | rfl) | rfl) | rfl
    all_goals rfl
  intro c first
  cases h with
  | nil blank => exact blankly (blank c (List.mem_of_head? first))
  | @cons next ts blanks cs rest blank spelled more =>
    cases blanks with
    | cons b blanks =>
      obtain rfl := Option.some.inj first
      exact blankly (blank b List.mem_cons_self)
    | nil =>
      obtain ⟨d, more, rfl, -, kind⟩ := spelled.exists_cons
      obtain rfl := Option.some.inj first
      rw [kind, Bool.eq_false_iff]
      intro again
      exact (List.isChain_cons.mp apart).1 _ rfl ⟨number, again⟩

theorem tokensAfter_written (h : Written ts cs) (apart : Apart ts) (read : List Token) :
    tokensAfter read cs = some (read.reverse ++ ts) := by
  induction h generalizing read with
  | nil blank => rw [tokensAfter_blanks blank, List.append_nil]
  | @cons t ts blanks cs rest blank spelled more ih =>
    have ends (number : t.isNumber = true) := more.head?_of_apart number apart
    obtain ⟨c, others, start, shows, -⟩ := spelled.exists_cons
    have visible : ∃ c more, cs ++ rest = c :: more ∧ isBlank c = false :=
      ⟨c, others ++ rest, by rw [start, List.cons_append], shows⟩
    rw [tokensAfter_token blank visible (first?_spelled spelled ends), ih apart.tail,
      List.reverse_cons, List.append_assoc, List.singleton_append]

/-- The tokens of a text are those that were written, in whichever way. -/
theorem tokens?_written (h : Written ts cs) (apart : Apart ts) : tokens? cs = some ts :=
  tokensAfter_written h apart []

end LintRepair.Json
