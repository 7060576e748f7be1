import LintRepair.Text.Trim
import LintRepair.Toml.Scalar

/-!
TOML strings: in double quotes with escapes or in single quotes as they stand, on one line or, in
three quotes, over several. Every reader leaves less than it was given.
-/
namespace LintRepair.Toml
open Text

def isBlank (c : Char) : Bool := c = ' ' || c = '\t'

/-- A character that may stand in a line: no control but the tab. -/
def isLineChar (c : Char) : Bool := c = '\t' || (' ' ≤ c && c ≠ '\x7f')

/-- The character with a code point in base sixteen; surrogates are none. -/
def codePoint? (digits : List Char) : Option Char :=
  let n := number 16 digits
  if digits.all (digitValue · < 16) && n.isValidChar then some (Char.ofNat n) else none

def letter? (c : Char) : Option Char :=
  if c = '"' || c = '\\' then some c
  else if c = 'b' then some '\x08'
  else if c = 't' then some '\t'
  else if c = 'n' then some '\n'
  else if c = 'f' then some '\x0c'
  else if c = 'r' then some '\r'
  else if c = 'e' then some '\x1b'
  else none

def escapeWidth (c : Char) : Nat :=
  if c = 'x' then 2 else if c = 'u' then 4 else if c = 'U' then 8 else 0

def escape? : List Char → Option (Char × List Char)
  | [] => none
  | c :: cs =>
    if escapeWidth c = 0 then (letter? c).map fun e => (e, cs)
    else if cs.length < escapeWidth c then none
    else (codePoint? (cs.take (escapeWidth c))).map fun e => (e, cs.drop (escapeWidth c))

theorem length_lt_of_escape? {cs rest : List Char} {e : Char} (h : escape? cs = some (e, rest)) :
    rest.length < cs.length := by
  cases cs with
  | nil => simp [escape?] at h
  | cons c cs =>
    simp only [escape?] at h
    split at h
    · obtain ⟨d, -, hd⟩ := Option.map_eq_some_iff.mp h
      simp only [Prod.mk.injEq] at hd
      simp [← hd.2]
    · split at h
      · simp at h
      · obtain ⟨d, -, hd⟩ := Option.map_eq_some_iff.mp h
        simp only [Prod.mk.injEq] at hd
        simp only [← hd.2, List.length_drop, List.length_cons]
        omega

/-- A string in double quotes behind its opening quote, and what follows it. The characters read so
far come in reverse. -/
def basic? (read : List Char) (cs : List Char) : Option (String × List Char) :=
  match cs with
  | [] => none
  | '"' :: rest => some (String.ofList read.reverse, rest)
  | '\\' :: more =>
    match _h : escape? more with
    | none => none
    | some (e, rest) => basic? (e :: read) rest
  | c :: rest => if isLineChar c then basic? (c :: read) rest else none
termination_by cs.length
decreasing_by
  · have := length_lt_of_escape? _h
    simp only [List.length_cons]
    omega
  · simp

def dropSpace : List Char → List Char
  | '\r' :: '\n' :: cs => dropSpace cs
  | c :: cs => if isBlank c || c = '\n' then dropSpace cs else c :: cs
  | [] => []

theorem length_dropSpace_le (cs : List Char) : (dropSpace cs).length ≤ cs.length := by
  fun_induction dropSpace cs <;> simp_all <;> omega

/-- Behind a backslash at the end of a line: what follows the blanks and line ends after it. -/
def continued? (cs : List Char) : Option (List Char) :=
  match cs.dropWhile isBlank with
  | '\n' :: rest => some (dropSpace rest)
  | '\r' :: '\n' :: rest => some (dropSpace rest)
  | _ => none

theorem length_lt_of_continued? {cs rest : List Char} (h : continued? cs = some rest) :
    rest.length < cs.length := by
  have hd := (List.dropWhile_sublist isBlank (l := cs)).length_le
  unfold continued? at h
  split at h
  all_goals first
    | (rename_i r he
       rw [he] at hd
       have := length_dropSpace_le r
       simp only [Option.some.injEq] at h
       simp only [List.length_cons] at hd
       rw [← h]
       omega)
    | simp at h

/-- The end of a string in three quotes, behind the first three: up to two more belong to it. -/
def closing (q : Char) (read : List Char) : List Char → String × List Char
  | a :: b :: rest =>
    if a = q && b = q then (String.ofList (q :: q :: read).reverse, rest)
    else if a = q then (String.ofList (q :: read).reverse, b :: rest)
    else (String.ofList read.reverse, a :: b :: rest)
  | [a] =>
    if a = q then (String.ofList (q :: read).reverse, []) else (String.ofList read.reverse, [a])
  | [] => (String.ofList read.reverse, [])

/-- A string in three double quotes behind the opening ones, and what follows it. -/
def basicBlock? (read : List Char) (cs : List Char) : Option (String × List Char) :=
  match cs with
  | [] => none
  | '"' :: '"' :: '"' :: rest => some (closing '"' read rest)
  | '\r' :: '\n' :: rest => basicBlock? ('\n' :: '\r' :: read) rest
  | '\\' :: more =>
    match _h : continued? more with
    | some rest => basicBlock? read rest
    | none =>
      match _h : escape? more with
      | none => none
      | some (e, rest) => basicBlock? (e :: read) rest
  | c :: rest => if isLineChar c || c = '\n' then basicBlock? (c :: read) rest else none
termination_by cs.length
decreasing_by
  · simp only [List.length_cons]
    omega
  · have := length_lt_of_continued? _h
    simp only [List.length_cons]
    omega
  · have := length_lt_of_escape? _h
    simp only [List.length_cons]
    omega
  · simp

def literal? (cs : List Char) : Option (String × List Char) :=
  let body := cs.takeWhile (· ≠ '\'')
  match cs.dropWhile (· ≠ '\'') with
  | [] => none
  | _ :: rest => if body.all isLineChar then some (String.ofList body, rest) else none

/-- A string in three single quotes behind the opening ones, and what follows it. -/
def literalBlock? (read : List Char) : List Char → Option (String × List Char)
  | [] => none
  | '\'' :: '\'' :: '\'' :: rest => some (closing '\'' read rest)
  | '\r' :: '\n' :: rest => literalBlock? ('\n' :: '\r' :: read) rest
  | c :: rest => if isLineChar c || c = '\n' then literalBlock? (c :: read) rest else none

def dropFirstLineEnd : List Char → List Char
  | '\n' :: cs => cs
  | '\r' :: '\n' :: cs => cs
  | cs => cs

def quotation? : List Char → Option (String × List Char)
  | '"' :: '"' :: '"' :: cs => basicBlock? [] (dropFirstLineEnd cs)
  | '"' :: cs => basic? [] cs
  | '\'' :: '\'' :: '\'' :: cs => literalBlock? [] (dropFirstLineEnd cs)
  | '\'' :: cs => literal? cs
  | _ => none

end LintRepair.Toml
