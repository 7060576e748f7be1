import LintRepair.Text.CharClass

/-!
Cutting a class of characters off the ends of a text. What is left starts, or ends, with none of
the class.
-/
namespace LintRepair.Text

def dropEnd (p : Char → Bool) (cs : List Char) : List Char :=
  (cs.reverse.dropWhile p).reverse

def trimStart (cs : List Char) : List Char := cs.dropWhile isBlank

def trimEnd (cs : List Char) : List Char := dropEnd isBlank cs

def trim (cs : List Char) : List Char := trimEnd (trimStart cs)

def allBlank (cs : List Char) : Bool := cs.all isBlank

def after? : List Char → List Char → Option (List Char)
  | [], cs => some cs
  | _ :: _, [] => none
  | p :: ps, c :: cs => if p = c then after? ps cs else none

theorem after?_append (p cs : List Char) : after? p (p ++ cs) = some cs := by
  induction p with
  | nil => cases cs <;> rfl
  | cons c p ih => simp [after?, ih]

theorem eq_append_of_after? {p cs rest : List Char} (h : after? p cs = some rest) :
    cs = p ++ rest := by
  induction p generalizing cs with
  | nil => cases cs <;> simp_all [after?]
  | cons c p ih =>
    cases cs with
    | nil => simp [after?] at h
    | cons d cs =>
      by_cases hcd : c = d
      · simp only [after?, hcd, if_true] at h
        simp [hcd, ih h]
      · simp [after?, hcd] at h

theorem after?_eq_some_iff {p cs rest : List Char} : after? p cs = some rest ↔ cs = p ++ rest :=
  ⟨eq_append_of_after?, fun h => h ▸ after?_append p rest⟩

theorem dropEnd_append_of_neg {p : Char → Bool} {c : Char} (cs : List Char) (h : p c = false) :
    dropEnd p (cs ++ [c]) = cs ++ [c] := by
  simp [dropEnd, h]

end LintRepair.Text

namespace LintRepair

def trimmed (s : String) : String := String.ofList (Text.trim s.toList)

def isBlankText (s : String) : Bool := Text.allBlank s.toList

end LintRepair
