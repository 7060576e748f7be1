import LintRepair.Json.Pretty
import LintRepair.Proofs.Json.Reader

/-!
A value is read back from the text that it is written as over several lines. Lines and levels are
blanks between tokens, and a literal escapes what may not stand in it.
-/
namespace LintRepair.Json
open Text

variable {c : Char} {ts us : List Token} {a b cs blanks : List Char} {v : Value}

theorem isHexDigit_lowerHex {n : Nat} (small : n < 16) : IsHexDigit n (lowerHex n) := by
  have table : ∀ n < 16, "0123456789abcdef".toList[n]? = some (lowerHex n) := by decide
  exact .inl (table n small)

theorem isHexUnit_padFour {n : Nat} (small : n < 32) :
    IsHexUnit n (padFour (hexDigits lowerHex n)) := by
  have zero : IsHexDigit 0 '0' := .inl rfl
  have unit := IsHexUnit.digits zero zero (isHexDigit_lowerHex (n := n / 16) (by omega))
    (isHexDigit_lowerHex (n := n % 16) (by omega))
  have value : 0 * 4096 + 0 * 256 + n / 16 * 16 + n % 16 = n := by omega
  rw [value] at unit
  by_cases one : n < 16
  · have quotient : n / 16 = 0 := by omega
    have remainder : n % 16 = n := by omega
    rw [quotient, remainder] at unit
    rw [hexDigits, if_pos one]
    exact unit
  · rw [hexDigits, if_neg one, hexDigits, if_pos (by omega)]
    exact unit

theorem spelled_escaped (c : Char) : (Piece.char c).Spelled (escaped c) := by
  have named {e d : Char} (same : c = d) (mem : (e, d) ∈ shortForms) :
      (Piece.char c).Spelled ['\\', e] := same ▸ .short mem
  unfold escaped
  split
  · exact named ‹_› (by decide)
  rename_i not_quote
  split
  · exact named ‹_› (by decide)
  rename_i not_backslash
  split
  · exact named ‹_› (by decide)
  split
  · exact named ‹_› (by decide)
  split
  · exact named ‹_› (by decide)
  split
  · exact named ‹_› (by decide)
  split
  · exact named ‹_› (by decide)
  split
  · rename_i control
    exact .unit (isHexUnit_padFour control)
  · rename_i visible
    exact .plain (Char.not_lt.mp visible) not_quote not_backslash

theorem denotes_chars (cs : List Char) : Denotes (cs.map .char) cs := by
  induction cs with
  | nil => exact .nil
  | cons c cs ih => exact .char c ih

theorem spelled_literalOf (l : Literal) : (Token.text l).Spelled (literalOf l) := by
  cases l with
  | some s =>
    have parts : List.Forall₂ Piece.Spelled (s.toList.map .char) (s.toList.map escaped) := by
      induction s.toList with
      | nil => exact .nil
      | cons c cs ih => exact .cons (spelled_escaped c) ih
    have literal := Literal.Spelled.text parts (denotes_chars s.toList)
    rw [← List.flatMap_def] at literal
    exact .text literal
  | none =>
    have zero : IsHexDigit 0 '0' := .inl rfl
    have half : (Piece.half 0xD800).Spelled ['\\', 'u', 'd', '8', '0', '0'] :=
      .half (.digits (k := 13) (l := 8) (.inl rfl) (.inl rfl) zero zero) (by decide) (by decide)
    have silent (cs : List Char) : ¬ Denotes [.half 0xD800] cs := by
      generalize whole : [Piece.half 0xD800] = ps
      intro meant
      cases meant with
      | nil => cases whole
      | char => cases whole
      | pair => cases (List.cons.inj whole).2
    exact .text (.broken (.cons half .nil) silent)

theorem Written.blanks_append (blank : ∀ c ∈ blanks, isBlank c = true) (h : Written ts cs) :
    Written ts (blanks ++ cs) := by
  have both {more : List Char} (blank' : ∀ c ∈ more, isBlank c = true) :
      ∀ c ∈ blanks ++ more, isBlank c = true :=
    List.forall_mem_append.mpr ⟨blank, blank'⟩
  cases h with
  | nil blank' => exact .nil (both blank')
  | cons blank' spelled more =>
    rw [← List.append_assoc]
    exact .cons (both blank') spelled more

theorem Written.append (h : Written ts a) (more : Written us b) : Written (ts ++ us) (a ++ b) := by
  induction h with
  | nil blank => exact more.blanks_append blank
  | cons blank spelled _ ih =>
    rw [List.append_assoc, List.append_assoc]
    exact .cons blank spelled ih

theorem written_singleton {t : Token} (h : t.Spelled cs) : Written [t] cs := by
  have nothing : Written [] [] := .nil nofun
  have alone : Written [t] ([] ++ (cs ++ [])) := .cons nofun h nothing
  simpa using alone

theorem isBlank_lineAt (level : Nat) : ∀ c ∈ lineAt level, isBlank c = true := by
  intro c mem
  rcases List.mem_cons.mp mem with rfl | mem
  · rfl
  · rw [List.eq_of_mem_replicate mem]
    rfl

theorem Written.line (h : Written ts cs) (level : Nat) : Written ts (lineAt level ++ cs) :=
  h.blanks_append (isBlank_lineAt level)

/-- The numbers of a value are spelled as numbers. -/
def HasNumerals (ts : List Token) : Prop := ∀ n, Token.number n ∈ ts → IsNumeral n.toList

theorem HasNumerals.of_subset (h : HasNumerals us) (sub : ts ⊆ us) : HasNumerals ts :=
  fun n mem => h n (sub mem)

theorem HasNumerals.append (h : HasNumerals ts) (h' : HasNumerals us) : HasNumerals (ts ++ us) :=
  fun n mem => (List.mem_append.mp mem).elim (h n) (h' n)

theorem HasNumerals.cons {t : Token} (other : t.isNumber = false) (h : HasNumerals ts) :
    HasNumerals (t :: ts) := by
  intro n mem
  rcases List.mem_cons.mp mem with rfl | mem
  · cases other
  · exact h n mem

theorem hasNumerals_nil : HasNumerals [] := nofun

theorem hasNumerals_itemsTokens {vs : List Value} (h : ∀ v ∈ vs, HasNumerals v.tokens) :
    HasNumerals (itemsTokens vs) := by
  induction vs with
  | nil => exact hasNumerals_nil
  | cons v vs ih =>
    obtain ⟨first, others⟩ := List.forall_mem_cons.mp h
    exact (first.append (ih others)).cons rfl

theorem hasNumerals_array {vs : List Value} (h : ∀ v ∈ vs, HasNumerals v.tokens) :
    HasNumerals (Value.array vs).tokens := by
  have closed : HasNumerals [.closeArray] := hasNumerals_nil.cons rfl
  cases vs with
  | nil => exact closed.cons rfl
  | cons v vs =>
    obtain ⟨first, others⟩ := List.forall_mem_cons.mp h
    exact (first.append ((hasNumerals_itemsTokens others).append closed)).cons rfl

theorem hasNumerals_membersTokens {ms : List (Literal × Value)}
    (h : ∀ m ∈ ms, HasNumerals m.2.tokens) : HasNumerals (membersTokens ms) := by
  induction ms with
  | nil => exact hasNumerals_nil
  | cons m ms ih =>
    obtain ⟨first, others⟩ := List.forall_mem_cons.mp h
    exact (((first.append (ih others)).cons rfl).cons rfl).cons rfl

theorem hasNumerals_object {ms : List (Literal × Value)} (h : ∀ m ∈ ms, HasNumerals m.2.tokens) :
    HasNumerals (Value.object ms).tokens := by
  have closed : HasNumerals [.closeObject] := hasNumerals_nil.cons rfl
  cases ms with
  | nil => exact closed.cons rfl
  | cons m ms =>
    obtain ⟨first, others⟩ := List.forall_mem_cons.mp h
    have members := first.append ((hasNumerals_membersTokens others).append closed)
    exact ((members.cons rfl).cons rfl).cons rfl

theorem hasNumerals_ofMembers {ms : List (String × Value)} (h : ∀ m ∈ ms, HasNumerals m.2.tokens) :
    HasNumerals (Value.ofMembers ms).tokens :=
  hasNumerals_object (List.forall_mem_map.mpr h)

theorem written_key (k : Literal) : Written [.text k, .colon] (literalOf k ++ [':', ' ']) := by
  have space : Written [] [' '] := .nil (List.forall_mem_singleton.mpr rfl)
  exact (written_singleton (spelled_literalOf k)).append ((written_singleton .colon).append space)

mutual

/-- The layout of a value holds its tokens, whatever the level. -/
theorem written_layout (v : Value) (level : Nat) (h : HasNumerals v.tokens) :
    Written v.tokens (v.layout level) := by
  cases v with
  | null => exact written_singleton .nullWord
  | bool b =>
    cases b with
    | true => exact written_singleton .trueWord
    | false => exact written_singleton .falseWord
  | number n => exact written_singleton (.number (h n (List.mem_singleton_self _)))
  | text l => exact written_singleton (spelled_literalOf l)
  | array items =>
    cases items with
    | nil => exact (written_singleton .openArray).append (written_singleton .closeArray)
    | cons v vs =>
      have first := written_layout v (level + 1)
        (h.of_subset fun t mem => by simp [Value.tokens, mem])
      have others := written_itemsLayout vs (level + 1)
        (h.of_subset fun t mem => by simp [Value.tokens, mem])
      have inner := first.append (others.append ((written_singleton .closeArray).line level))
      have whole := (written_singleton .openArray).append (inner.line (level + 1))
      simpa only [Value.tokens, Value.layout, List.append_assoc, List.cons_append,
        List.nil_append] using whole
  | object members =>
    cases members with
    | nil => exact (written_singleton .openObject).append (written_singleton .closeObject)
    | cons m ms =>
      have first := written_layout m.2 (level + 1)
        (h.of_subset fun t mem => by simp [Value.tokens, mem])
      have others := written_membersLayout ms (level + 1)
        (h.of_subset fun t mem => by simp [Value.tokens, mem])
      have inner := first.append (others.append ((written_singleton .closeObject).line level))
      have whole := (written_singleton .openObject).append
        (((written_key m.1).append inner).line (level + 1))
      simpa only [Value.tokens, Value.layout, List.append_assoc, List.cons_append,
        List.nil_append] using whole

theorem written_itemsLayout (vs : List Value) (level : Nat) (h : HasNumerals (itemsTokens vs)) :
    Written (itemsTokens vs) (itemsLayout level vs) := by
  cases vs with
  | nil => exact .nil nofun
  | cons v vs =>
    have first := written_layout v level (h.of_subset fun t mem => by simp [itemsTokens, mem])
    have others := written_itemsLayout vs level
      (h.of_subset fun t mem => by simp [itemsTokens, mem])
    have whole := (written_singleton .comma).append ((first.append others).line level)
    simpa only [itemsTokens, itemsLayout, List.append_assoc, List.cons_append,
      List.nil_append] using whole

theorem written_membersLayout (ms : List (Literal × Value)) (level : Nat)
    (h : HasNumerals (membersTokens ms)) : Written (membersTokens ms) (membersLayout level ms) := by
  cases ms with
  | nil => exact .nil nofun
  | cons m ms =>
    have first := written_layout m.2 level (h.of_subset fun t mem => by simp [membersTokens, mem])
    have others := written_membersLayout ms level
      (h.of_subset fun t mem => by simp [membersTokens, mem])
    have whole := (written_singleton .comma).append
      (((written_key m.1).append (first.append others)).line level)
    simpa only [membersTokens, membersLayout, List.append_assoc, List.cons_append,
      List.nil_append] using whole

end

theorem isTextOf_pretty (h : HasNumerals v.tokens) : IsTextOf v.pretty v := by
  rw [IsTextOf, Value.pretty, String.toList_ofList]
  exact written_layout v 0 h

theorem IsTextOf.append_blanks {s more : String} (h : IsTextOf s v)
    (blank : ∀ c ∈ more.toList, isBlank c = true) : IsTextOf (s ++ more) v := by
  have whole := Written.append h (.nil blank)
  rwa [List.append_nil, ← String.toList_append] at whole

end LintRepair.Json
