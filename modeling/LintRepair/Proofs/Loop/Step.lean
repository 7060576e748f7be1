import LintRepair.Loop.Run

/-!
What one pass of a loop leads to, for each way its calls can be answered. Later proofs about runs
use these equations and do not open the loop.
-/
namespace LintRepair.Collaborators
variable {σ ε : Type} {c : Collaborators σ ε} {plan : LoopPlan} {p q : Progress} {left : Nat}
variable {s s₁ s₂ s₃ : σ} {lint : LintOutput} {e : ε} {r : Repair}

theorem passes_of_lint_error (h : c.lint plan.request s = (.error e, s₁)) :
    c.passes plan left p s = Prod.map .error id (c.abandon p e s₁) := by
  unfold passes
  rw [h]
  rfl

theorem passes_of_clean (h : c.lint plan.request s = (.ok lint, s₁))
    (clean : (p.pass lint).diagnostics = []) :
    c.passes plan left p s = Prod.map .ok id (c.converge plan p (p.pass lint) s₁) := by
  unfold passes
  simp only [h, clean, List.isEmpty_nil, if_true]
  rfl

theorem passes_zero_of_found (h : c.lint plan.request s = (.ok lint, s₁))
    (found : (p.pass lint).diagnostics ≠ []) :
    c.passes plan 0 p s =
      Prod.map .ok id (c.exhaust plan p (p.pass lint) (c.report ⟨p.pass lint, none⟩ s₁)) := by
  unfold passes
  simp only [h, List.isEmpty_eq_false_iff.mpr found, Bool.false_eq_true, if_false]
  rfl

theorem passes_succ_of_unmended {failure : LoopError ε}
    (h : c.lint plan.request s = (.ok lint, s₁)) (found : (p.pass lint).diagnostics ≠ [])
    (hm : c.mend plan p (p.pass lint) (c.report ⟨p.pass lint, none⟩ s₁) = (.error failure, s₂)) :
    c.passes plan (left + 1) p s = (.error failure, s₂) := by
  rw [passes]
  simp only [h, List.isEmpty_eq_false_iff.mpr found, Bool.false_eq_true, if_false, hm]

theorem passes_succ_of_mended (h : c.lint plan.request s = (.ok lint, s₁))
    (found : (p.pass lint).diagnostics ≠ [])
    (hm : c.mend plan p (p.pass lint) (c.report ⟨p.pass lint, none⟩ s₁) = (.ok q, s₂)) :
    c.passes plan (left + 1) p s = c.passes plan left q s₂ := by
  rw [passes]
  simp only [h, List.isEmpty_eq_false_iff.mpr found, Bool.false_eq_true, if_false, hm]

theorem abandon_of_none (h : p.candidate = none) : c.abandon p e s = (.lint e, s) := by
  simp only [abandon, h]

theorem abandon_of_restored {v : Version} (h : p.candidate = some v)
    (hw : c.write p.committed.text s = (.ok (), s₁)) : c.abandon p e s = (.lint e, s₁) := by
  simp only [abandon, h, hw]

theorem abandon_of_unrestored {v : Version} {f : ε} (h : p.candidate = some v)
    (hw : c.write p.committed.text s = (.error f, s₁)) :
    c.abandon p e s = (.restore f, s₁) := by
  simp only [abandon, h, hw]

section Mend
variable {pass : Pass} {known : List Explanation} {lookups : Lookups}

theorem mend_of_unrepaired
    (h : c.explanations plan.request p.lookups pass.diagnostics s = (known, lookups, s₁))
    (hr : c.repair ⟨c.path, p.current.text, pass.diagnostics, known⟩ s₁ = (.error e, s₂)) :
    c.mend plan p pass s = (.error (.repair e), s₂) := by
  simp only [mend, h, hr]

theorem mend_of_unwritten
    (h : c.explanations plan.request p.lookups pass.diagnostics s = (known, lookups, s₁))
    (hr : c.repair ⟨c.path, p.current.text, pass.diagnostics, known⟩ s₁ = (.ok r, s₂))
    (hw : c.write r.source s₂ = (.error e, s₃)) :
    c.mend plan p pass s = (.error (.write e), s₃) := by
  simp only [mend, h, hr, hw]

theorem mend_of_written
    (h : c.explanations plan.request p.lookups pass.diagnostics s = (known, lookups, s₁))
    (hr : c.repair ⟨c.path, p.current.text, pass.diagnostics, known⟩ s₁ = (.ok r, s₂))
    (hw : c.write r.source s₂ = (.ok (), s₃)) :
    c.mend plan p pass s =
      (.ok (p.repaired lookups r), c.report ⟨pass, some r⟩ (c.record ⟨pass, some r⟩ s₃)) := by
  simp only [mend, h, hr, hw]

end Mend

/-- What every single lookup of an explanation preserves, looking them up for some diagnostics
preserves. -/
theorem explanations_preserves {P : σ → Prop}
    (keep : ∀ code q s, P s → P (c.explain code q s).2) (q : CommandRequest) (known : Lookups)
    (ds : List Diagnostic) (h : P s) : P (c.explanations q known ds s).2.2 := by
  have lookUp (known : Lookups) (code : String) {s : σ} (h : P s) :
      P (c.lookUp q known code s).2.2 := by
    unfold Collaborators.lookUp
    have hk := keep code q s h
    split
    · exact h
    · split <;> simpa [*] using hk
  have after (gathered : List Explanation) :
      P (c.explanationsAfter q gathered known ds s).2.2 := by
    induction ds generalizing gathered known s with
    | nil => exact h
    | cons d ds ih =>
      rw [explanationsAfter]
      split
      · exact ih known h gathered
      · have hl := lookUp known d.code h
        split <;> rename_i eq <;> rw [eq] at hl <;> exact ih _ hl _
  exact after []

end LintRepair.Collaborators
