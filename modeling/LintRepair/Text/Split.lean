/-!
A text cut at every occurrence of one character, and pieces written with that character between
them. Writing the pieces of a text gives the text back.
-/
namespace LintRepair.Text

/-- The pieces between occurrences of `sep`, one more than there are occurrences. -/
def split (sep : Char) : List Char → List (List Char)
  | [] => [[]]
  | c :: cs =>
    if c = sep then [] :: split sep cs
    else match split sep cs with
      | [] => [[c]]
      | l :: ls => (c :: l) :: ls

def join (sep : Char) : List (List Char) → List Char
  | [] => []
  | [l] => l
  | l :: m :: ls => l ++ sep :: join sep (m :: ls)

theorem split_ne_nil (sep : Char) (cs : List Char) : split sep cs ≠ [] := by
  cases cs with
  | nil => simp [split]
  | cons c cs =>
    simp only [split]
    split
    · simp
    · split <;> simp

theorem split_sep (sep : Char) (cs : List Char) : split sep (sep :: cs) = [] :: split sep cs := by
  simp [split]

theorem join_split (sep : Char) (cs : List Char) : join sep (split sep cs) = cs := by
  induction cs with
  | nil => rfl
  | cons c cs ih =>
    simp only [split]
    cases hp : split sep cs with
    | nil => exact absurd hp (split_ne_nil sep cs)
    | cons l ls =>
      rw [hp] at ih
      by_cases hc : c = sep
      · simp [hc, join, ih]
      · cases ls with
        | nil => simpa [hc, join] using ih
        | cons m ms => simpa [hc, join] using ih

theorem split_append_sep (sep : Char) (a b : List Char) :
    split sep (a ++ sep :: b) = split sep a ++ split sep b := by
  induction a with
  | nil => simp [split]
  | cons c a ih =>
    simp only [List.cons_append, split]
    split
    · simp [ih]
    · rw [ih]
      cases hp : split sep a with
      | nil => exact absurd hp (split_ne_nil sep a)
      | cons l ls => simp

theorem split_of_not_mem {sep : Char} {cs : List Char} (h : sep ∉ cs) : split sep cs = [cs] := by
  induction cs with
  | nil => rfl
  | cons c cs ih =>
    simp only [List.mem_cons, not_or] at h
    simp [split, Ne.symm h.1, ih h.2]

end LintRepair.Text
