import LintRepair.Json.Value
import LintRepair.Text.Trim

/-!
JSON texts as tokens. Blanks between tokens are dropped; numbers and string literals follow the
standard strictly. Every reader leaves less than it was given, which bounds the whole reading.
-/
namespace LintRepair.Json
open Text

inductive Token where
  | openArray
  | closeArray
  | openObject
  | closeObject
  | colon
  | comma
  | null
  | bool (b : Bool)
  | number (spelling : String)
  | text (s : Literal)
deriving DecidableEq, Repr

def isBlank (c : Char) : Bool := c = ' ' || c = '\t' || c = '\n' || c = '\r'

def hexDigit? (c : Char) : Option Nat :=
  if '0' ≤ c ∧ c ≤ '9' then some (c.toNat - 48)
  else if 'a' ≤ c ∧ c ≤ 'f' then some (c.toNat - 87)
  else if 'A' ≤ c ∧ c ≤ 'F' then some (c.toNat - 55)
  else none

def hexUnit? (a b c d : Char) : Option Nat :=
  match hexDigit? a, hexDigit? b, hexDigit? c, hexDigit? d with
  | some a, some b, some c, some d => some (((a * 16 + b) * 16 + c) * 16 + d)
  | _, _, _, _ => none

def isHighSurrogate (n : Nat) : Bool := 0xD800 ≤ n && n < 0xDC00

def isLowSurrogate (n : Nat) : Bool := 0xDC00 ≤ n && n < 0xE000

def pairChar (high low : Nat) : Char :=
  Char.ofNat (0x10000 + (high - 0xD800) * 0x400 + (low - 0xDC00))

def escape? (c : Char) : Option Char :=
  if c = '"' || c = '\\' || c = '/' then some c
  else if c = 'b' then some '\x08'
  else if c = 'f' then some '\x0c'
  else if c = 'n' then some '\n'
  else if c = 'r' then some '\r'
  else if c = 't' then some '\t'
  else none

/-- A part of a string literal: a character, or half of a surrogate pair. -/
inductive Piece where
  | char (c : Char)
  | half (n : Nat)
deriving DecidableEq, Repr

def Piece.ofUnit (n : Nat) : Piece :=
  if isHighSurrogate n || isLowSurrogate n then .half n else .char (Char.ofNat n)

/-- The characters of some parts, behind those read so far in reverse; none unless every half
stands in a pair. -/
def joinedAfter (read : List Char) : List Piece → Option (List Char)
  | [] => some read.reverse
  | .char c :: ps => joinedAfter (c :: read) ps
  | .half n :: .half m :: ps =>
    if isHighSurrogate n && isLowSurrogate m then joinedAfter (pairChar n m :: read) ps else none
  | .half _ :: _ => none

def Literal.ofPieces (ps : List Piece) : Literal := (joinedAfter [] ps).map String.ofList

/-- A string literal behind its opening quote, and what follows it. The parts read so far come in
reverse. -/
def literal? (read : List Piece) : List Char → Option (Literal × List Char)
  | [] => none
  | '"' :: rest => some (Literal.ofPieces read.reverse, rest)
  | '\\' :: 'u' :: a :: b :: c :: d :: rest =>
    match hexUnit? a b c d with
    | none => none
    | some n => literal? (Piece.ofUnit n :: read) rest
  | '\\' :: c :: rest =>
    match escape? c with
    | none => none
    | some e => literal? (.char e :: read) rest
  | c :: rest => if c < ' ' || c = '\\' then none else literal? (.char c :: read) rest

theorem length_lt_of_literal? {read : List Piece} {cs rest : List Char} {s : Literal}
    (h : literal? read cs = some (s, rest)) : rest.length < cs.length := by
  fun_induction literal? read cs <;> simp_all <;> omega

def isNumberChar (c : Char) : Bool :=
  c.isDigit || c = '-' || c = '+' || c = '.' || c = 'e' || c = 'E'

def isDigits (cs : List Char) : Bool := !cs.isEmpty && cs.all Char.isDigit

def isExponent : List Char → Bool
  | [] => true
  | e :: '+' :: cs => (e = 'e' || e = 'E') && isDigits cs
  | e :: '-' :: cs => (e = 'e' || e = 'E') && isDigits cs
  | e :: cs => (e = 'e' || e = 'E') && isDigits cs

def isFraction : List Char → Bool
  | '.' :: cs => !(cs.takeWhile Char.isDigit).isEmpty && isExponent (cs.dropWhile Char.isDigit)
  | cs => isExponent cs

/-- A number without its sign: no zero before another digit. -/
def isMagnitude : List Char → Bool
  | '0' :: cs => isFraction cs
  | cs => !(cs.takeWhile Char.isDigit).isEmpty && isFraction (cs.dropWhile Char.isDigit)

def isNumber : List Char → Bool
  | '-' :: cs => isMagnitude cs
  | cs => isMagnitude cs

def mark? (c : Char) : Option Token :=
  if c = '[' then some .openArray
  else if c = ']' then some .closeArray
  else if c = '\x7b' then some .openObject
  else if c = '\x7d' then some .closeObject
  else if c = ':' then some .colon
  else if c = ',' then some .comma
  else none

def words : List (List Char × Token) :=
  [("null".toList, .null), ("true".toList, .bool true), ("false".toList, .bool false)]

def word? (cs : List Char) : Option (Token × List Char) :=
  words.findSome? fun w => (after? w.1 cs).map fun rest => (w.2, rest)

def number? (cs : List Char) : Option (Token × List Char) :=
  if isNumber (cs.takeWhile isNumberChar) then
    some (.number (String.ofList (cs.takeWhile isNumberChar)), cs.dropWhile isNumberChar)
  else none

def first? : List Char → Option (Token × List Char)
  | [] => none
  | c :: cs =>
    match mark? c with
    | some t => some (t, cs)
    | none =>
      if c = '"' then (literal? [] cs).map fun r => (.text r.1, r.2)
      else if isNumberChar c then number? (c :: cs)
      else word? (c :: cs)

theorem length_lt_of_after? {p cs rest : List Char} (hp : p ≠ []) (h : after? p cs = some rest) :
    rest.length < cs.length := by
  rw [eq_append_of_after? h, List.length_append]
  have := List.length_pos_iff.mpr hp
  omega

theorem length_lt_of_word? {cs rest : List Char} {t : Token} (h : word? cs = some (t, rest)) :
    rest.length < cs.length := by
  obtain ⟨w, hw, he⟩ := List.exists_of_findSome?_eq_some h
  obtain ⟨r, hr, hp⟩ := Option.map_eq_some_iff.mp he
  simp only [Prod.mk.injEq] at hp
  have : ∀ w ∈ words, w.1 ≠ [] := by decide
  exact hp.2 ▸ length_lt_of_after? (this w hw) hr

theorem length_lt_of_first? {cs rest : List Char} {t : Token} (h : first? cs = some (t, rest)) :
    rest.length < cs.length := by
  cases cs with
  | nil => simp [first?] at h
  | cons c cs =>
    simp only [first?] at h
    split at h
    · simp only [Option.some.injEq, Prod.mk.injEq] at h
      simp [h.2]
    · split at h
      · obtain ⟨⟨s, r⟩, hr, he⟩ := Option.map_eq_some_iff.mp h
        simp only [Prod.mk.injEq] at he
        have := length_lt_of_literal? hr
        simp only [List.length_cons, ← he.2]
        omega
      · split at h
        · rename_i hc
          unfold number? at h
          split at h
          · simp only [List.dropWhile_cons, hc, if_true, Option.some.injEq, Prod.mk.injEq] at h
            have := (List.dropWhile_sublist isNumberChar (l := cs)).length_le
            simp only [List.length_cons, ← h.2]
            omega
          · simp at h
        · exact length_lt_of_word? h

/-- The tokens of a text behind those read so far, which come in reverse. -/
def tokensAfter (read : List Token) (cs : List Char) : Option (List Token) :=
  match _hcs : cs.dropWhile isBlank with
  | [] => some read.reverse
  | c :: more =>
    match _h : first? (c :: more) with
    | none => none
    | some (t, rest) => tokensAfter (t :: read) rest
termination_by cs.length
decreasing_by
  have h1 := length_lt_of_first? _h
  have h2 := (List.dropWhile_sublist isBlank (l := cs)).length_le
  rw [_hcs] at h2
  omega

def tokens? (cs : List Char) : Option (List Token) := tokensAfter [] cs

end LintRepair.Json
