/-!
UTF-8: texts as bytes, and bytes as texts.

The reader is a machine that takes one byte at a time and holds at most one unfinished sequence.
A sequence that turns out broken counts as one broken character, up to the byte that breaks it;
that byte is then read afresh. Reading leniently writes U+FFFD for each broken character, reading
strictly fails on the first. Since the machine never looks ahead, a beginning of the bytes gives a
beginning of the characters, and at most one broken character at its end.
-/
namespace LintRepair.Text.Utf8

def encode (cs : List Char) : List UInt8 := cs.flatMap String.utf8EncodeChar

/-- An unfinished sequence: its value so far, the bytes still missing, the range of the next. -/
structure Pending where
  value : Nat
  missing : Nat
  lo : UInt8
  hi : UInt8
deriving DecidableEq, Repr

/-- What a first byte opens: a character, a longer sequence, or nothing. -/
inductive Lead where
  | char (c : Char)
  | longer (p : Pending)
  | broken
deriving DecidableEq, Repr

/-- The first bytes: overlong forms, surrogates and values above U+10FFFF open nothing. -/
def lead (b : UInt8) : Lead :=
  let n := b.toNat
  if b < 0x80 then .char (Char.ofNat n)
  else if b < 0xC2 then .broken
  else if b < 0xE0 then .longer ⟨n - 0xC0, 1, 0x80, 0xBF⟩
  else if b = 0xE0 then .longer ⟨0, 2, 0xA0, 0xBF⟩
  else if b = 0xED then .longer ⟨0xD, 2, 0x80, 0x9F⟩
  else if b < 0xF0 then .longer ⟨n - 0xE0, 2, 0x80, 0xBF⟩
  else if b = 0xF0 then .longer ⟨0, 3, 0x90, 0xBF⟩
  else if b < 0xF4 then .longer ⟨n - 0xF0, 3, 0x80, 0xBF⟩
  else if b = 0xF4 then .longer ⟨4, 3, 0x80, 0x8F⟩
  else .broken

/-- Reading a byte with nothing pending. A broken character is `none`. -/
def start (b : UInt8) : List (Option Char) × Option Pending :=
  match lead b with
  | .char c => ([some c], none)
  | .longer p => ([], some p)
  | .broken => ([none], none)

/-- Reading one byte: the characters it completes and what is pending after it. -/
def feed : Option Pending → UInt8 → List (Option Char) × Option Pending
  | none, b => start b
  | some p, b =>
    if p.lo ≤ b ∧ b ≤ p.hi then
      let value := p.value * 64 + (b.toNat - 0x80)
      match p.missing with
      | 0 | 1 => ([some (Char.ofNat value)], none)
      | m + 2 => ([], some ⟨value, m + 1, 0x80, 0xBF⟩)
    else
      let r := start b
      (none :: r.1, r.2)

/-- The characters that bytes complete, from a state; an unfinished one at the end is broken. -/
def scan : Option Pending → List UInt8 → List (Option Char)
  | none, [] => []
  | some _, [] => [none]
  | p, b :: bs => (feed p b).1 ++ scan (feed p b).2 bs

def stateAfter (p : Option Pending) (bs : List UInt8) : Option Pending :=
  bs.foldl (fun p b => (feed p b).2) p

def completed : Option Pending → List UInt8 → List (Option Char)
  | _, [] => []
  | p, b :: bs => (feed p b).1 ++ completed (feed p b).2 bs

def replacement : Char := '\uFFFD'

def decodeLossy (bs : List UInt8) : List Char :=
  (scan none bs).map fun c => c.getD replacement

def decode? (bs : List UInt8) : Option (List Char) :=
  (scan none bs).mapM id

theorem scan_append (p : Option Pending) (a b : List UInt8) :
    scan p (a ++ b) = completed p a ++ scan (stateAfter p a) b := by
  induction a generalizing p with
  | nil => rfl
  | cons x a ih => simp [scan, completed, stateAfter, ih]

/-- Bytes give what they complete, and one broken character if a sequence is left unfinished. -/
theorem scan_eq_completed (p : Option Pending) (bs : List UInt8) :
    scan p bs = completed p bs ++ (if (stateAfter p bs).isSome then [none] else []) := by
  have h := scan_append p bs []
  rw [List.append_nil] at h
  rw [h]
  cases stateAfter p bs <;> simp [scan]

/-- A beginning of some bytes gives a beginning of their text, and behind that at most one broken
character. -/
theorem exists_decodeLossy_append (a b : List UInt8) :
    ∃ kept broken rest, decodeLossy a = kept ++ broken ∧
      (broken = [] ∨ broken = [replacement]) ∧ decodeLossy (a ++ b) = kept ++ rest := by
  refine ⟨(completed none a).map (·.getD replacement),
    (if (stateAfter none a).isSome then [none] else []).map (·.getD replacement),
    (scan (stateAfter none a) b).map (·.getD replacement), ?_, ?_, ?_⟩
  · rw [decodeLossy, scan_eq_completed, List.map_append]
  · cases (stateAfter none a).isSome
    · exact .inl rfl
    · exact .inr rfl
  · rw [decodeLossy, scan_append, List.map_append]

end LintRepair.Text.Utf8

namespace LintRepair

def utf8 (s : String) : List UInt8 := Text.Utf8.encode s.toList

def lossyText (bs : List UInt8) : String := String.ofList (Text.Utf8.decodeLossy bs)

def strictText? (bs : List UInt8) : Option String := (Text.Utf8.decode? bs).map String.ofList

end LintRepair
