import LintRepair.Loop.Basic

/-!
Looking up explanations. Each code is looked up once in a run; a failed lookup counts as a code
without explanation.
-/
namespace LintRepair

abbrev Lookups := List (String × Option String)

namespace Collaborators
variable {σ ε : Type}

def lookUp (c : Collaborators σ ε) (q : CommandRequest) (known : Lookups) (code : String) (s : σ) :
    Option String × Lookups × σ :=
  match known.lookup code with
  | some text => (text, known, s)
  | none =>
    match c.explain code q s with
    | (.ok text, s₁) => (text, known ++ [(code, text)], s₁)
    | (.error _, s₁) => (none, known ++ [(code, none)], s₁)

/-- The explanations of the codes among some diagnostics, behind those gathered already. -/
def explanationsAfter (c : Collaborators σ ε) (q : CommandRequest) (gathered : List Explanation)
    (known : Lookups) : List Diagnostic → σ → List Explanation × Lookups × σ
  | [], s => (gathered, known, s)
  | d :: ds, s =>
    if gathered.any (·.code = d.code) then explanationsAfter c q gathered known ds s
    else
      match c.lookUp q known d.code s with
      | (some text, known₁, s₁) =>
        explanationsAfter c q (gathered ++ [⟨d.code, text⟩]) known₁ ds s₁
      | (none, known₁, s₁) => explanationsAfter c q gathered known₁ ds s₁

/-- The explanations of the codes among some diagnostics, a code's at its first occurrence. -/
def explanations (c : Collaborators σ ε) (q : CommandRequest) (known : Lookups)
    (ds : List Diagnostic) (s : σ) : List Explanation × Lookups × σ :=
  c.explanationsAfter q [] known ds s

end Collaborators
end LintRepair
