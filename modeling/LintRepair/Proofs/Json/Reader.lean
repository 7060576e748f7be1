import LintRepair.Json.Reader
import LintRepair.Proofs.Json.Token

/-!
Every text of a value is read as that value. A value has one row of tokens, and the texts of the
value are the ways to write these tokens. While the reader takes the tokens of a value, it works on
top of its stack and comes back with the value, so its items and members are read one by one.
-/
namespace LintRepair.Json

mutual

def Value.tokens : Value → List Token
  | .null => [.null]
  | .bool b => [.bool b]
  | .number n => [.number n]
  | .text l => [.text l]
  | .array [] => [.openArray, .closeArray]
  | .array (v :: vs) => .openArray :: (v.tokens ++ (itemsTokens vs ++ [.closeArray]))
  | .object [] => [.openObject, .closeObject]
  | .object ((k, v) :: ms) =>
    .openObject :: .text k :: .colon :: (v.tokens ++ (membersTokens ms ++ [.closeObject]))

/-- The tokens of further items, each behind a comma. -/
def itemsTokens : List Value → List Token
  | [] => []
  | v :: vs => .comma :: (v.tokens ++ itemsTokens vs)

/-- The tokens of further members, each behind a comma. -/
def membersTokens : List (Literal × Value) → List Token
  | [] => []
  | (k, v) :: ms => .comma :: .text k :: .colon :: (v.tokens ++ membersTokens ms)

end

/-- The text is one of those that stand for the value. -/
def IsTextOf (s : String) (v : Value) : Prop := Written v.tokens s.toList

variable {t : Token} {ts rest : List Token} {stack : List Open} {v : Value} {s : String}

theorem Value.exists_tokens_eq (v : Value) : ∃ t ts, v.tokens = t :: ts ∧ t ≠ .closeArray := by
  cases v with
  | array items => cases items <;> exact ⟨_, _, rfl, nofun⟩
  | object members => cases members <;> exact ⟨_, _, rfl, nofun⟩
  | _ => exact ⟨_, _, rfl, nofun⟩

theorem apart_cons (first : t.isNumber = false) : Apart (t :: ts) ↔ Apart ts := by
  rw [Apart, List.isChain_cons]
  simp [first, Apart]

/-- What may stand behind a value: not a number. -/
def Follows (ts : List Token) : Prop := Apart ts ∧ ∀ t ∈ ts.head?, t.isNumber = false

theorem follows_cons (first : t.isNumber = false) (apart : Apart ts) : Follows (t :: ts) :=
  ⟨(apart_cons first).mpr apart, by simpa using first⟩

mutual

theorem apart_tokens (v : Value) (rest : List Token) (h : Follows rest) :
    Apart (v.tokens ++ rest) := by
  cases v with
  | null => exact (apart_cons rfl).mpr h.1
  | bool b => exact (apart_cons rfl).mpr h.1
  | text l => exact (apart_cons rfl).mpr h.1
  | number n =>
    rw [Value.tokens, Apart, List.singleton_append, List.isChain_cons]
    refine ⟨fun t mem => ?_, h.1⟩
    simp [h.2 t mem]
  | array items =>
    have closed : Follows (.closeArray :: rest) := follows_cons rfl h.1
    cases items with
    | nil => exact (apart_cons rfl).mpr closed.1
    | cons v vs =>
      have items := follows_itemsTokens vs _ closed
      rw [Value.tokens]
      simp only [List.cons_append, List.append_assoc, List.nil_append]
      exact (apart_cons rfl).mpr (apart_tokens v _ items)
  | object members =>
    have closed : Follows (.closeObject :: rest) := follows_cons rfl h.1
    cases members with
    | nil => exact (apart_cons rfl).mpr closed.1
    | cons m ms =>
      have members := follows_membersTokens ms _ closed
      rw [Value.tokens]
      simp only [List.cons_append, List.append_assoc, List.nil_append]
      exact (apart_cons rfl).mpr ((apart_cons rfl).mpr ((apart_cons rfl).mpr
        (apart_tokens m.2 _ members)))

theorem follows_itemsTokens (vs : List Value) (rest : List Token) (h : Follows rest) :
    Follows (itemsTokens vs ++ rest) := by
  cases vs with
  | nil => exact h
  | cons v vs =>
    rw [itemsTokens, List.cons_append, List.append_assoc]
    exact follows_cons rfl (apart_tokens v _ (follows_itemsTokens vs rest h))

theorem follows_membersTokens (ms : List (Literal × Value)) (rest : List Token)
    (h : Follows rest) : Follows (membersTokens ms ++ rest) := by
  cases ms with
  | nil => exact h
  | cons m ms =>
    have value := apart_tokens m.2 _ (follows_membersTokens ms rest h)
    rw [membersTokens]
    simp only [List.cons_append, List.append_assoc]
    exact follows_cons rfl ((apart_cons rfl).mpr ((apart_cons rfl).mpr value))

end

/-- The items of an array that was just opened are read as any values are. -/
theorem run?_item (first : t ≠ .closeArray) :
    Reading.run? ⟨stack, .item⟩ (t :: ts) =
      Reading.run? ⟨.array [] :: stack, .value⟩ (t :: ts) := by
  rw [Reading.run?, Reading.run?]
  cases t with
  | closeArray => exact absurd rfl first
  | _ => rfl

mutual

/-- Behind the tokens of a value the reader has that value, and its stack is what it was. -/
theorem run?_tokens (v : Value) (stack : List Open) (rest : List Token) :
    Reading.run? ⟨stack, .value⟩ (v.tokens ++ rest) = Reading.run? ⟨stack, .more v⟩ rest := by
  cases v with
  | null => rfl
  | bool b => rfl
  | number n => rfl
  | text l => rfl
  | array items =>
    cases items with
    | nil => rfl
    | cons v vs =>
      obtain ⟨t, ts, start, first⟩ := v.exists_tokens_eq
      have item :
          Reading.run? ⟨stack, .item⟩ (v.tokens ++ (itemsTokens vs ++ .closeArray :: rest)) =
          Reading.run? ⟨.array [] :: stack, .more v⟩ (itemsTokens vs ++ .closeArray :: rest) := by
        rw [← run?_tokens v, start]
        exact run?_item first
      rw [Value.tokens]
      simp only [List.cons_append, List.append_assoc, List.nil_append]
      exact item.trans (run?_itemsTokens vs [] v stack rest)
  | object members =>
    cases members with
    | nil => rfl
    | cons m ms =>
      rw [Value.tokens]
      simp only [List.cons_append, List.append_assoc, List.nil_append]
      exact (run?_tokens m.2 (.object [] m.1 :: stack) _).trans
        (run?_membersTokens ms [] m.1 m.2 stack rest)

theorem run?_itemsTokens (vs read : List Value) (v : Value) (stack : List Open)
    (rest : List Token) :
    Reading.run? ⟨.array read :: stack, .more v⟩ (itemsTokens vs ++ .closeArray :: rest) =
      Reading.run? ⟨stack, .more (.array (read.reverse ++ v :: vs))⟩ rest := by
  cases vs with
  | nil =>
    show Reading.run? ⟨stack, .more (.array (v :: read).reverse)⟩ rest = _
    rw [List.reverse_cons]
  | cons w vs =>
    have next := (run?_tokens w (.array (v :: read) :: stack) _).trans
      (run?_itemsTokens vs (v :: read) w stack rest)
    rw [List.reverse_cons, List.append_assoc, List.singleton_append] at next
    rw [itemsTokens, List.cons_append, List.append_assoc]
    exact next

theorem run?_membersTokens (ms read : List (Literal × Value)) (k : Literal) (v : Value)
    (stack : List Open) (rest : List Token) :
    Reading.run? ⟨.object read k :: stack, .more v⟩ (membersTokens ms ++ .closeObject :: rest) =
      Reading.run? ⟨stack, .more (.object (read.reverse ++ (k, v) :: ms))⟩ rest := by
  cases ms with
  | nil =>
    show Reading.run? ⟨stack, .more (.object ((k, v) :: read).reverse)⟩ rest = _
    rw [List.reverse_cons]
  | cons m ms =>
    have next := (run?_tokens m.2 (.object ((k, v) :: read) m.1 :: stack) _).trans
      (run?_membersTokens ms ((k, v) :: read) m.1 m.2 stack rest)
    rw [List.reverse_cons, List.append_assoc, List.singleton_append] at next
    rw [membersTokens]
    simp only [List.cons_append, List.append_assoc]
    exact next

end

theorem read?_of_isTextOf (h : IsTextOf s v) : read? s = some v := by
  have apart : Apart v.tokens := by
    simpa using apart_tokens v [] ⟨.nil, nofun⟩
  have run := run?_tokens v [] []
  rw [List.append_nil] at run
  rw [read?, tokens?_written h apart, Option.bind_some, run]
  rfl

end LintRepair.Json
