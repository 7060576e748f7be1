import LintRepair.Proofs.Loop.Store

/-!
What a run does not depend on. Two runs whose collaborators answer alike make the same calls with
the same arguments, report the same and end the same way. To answer alike, a lint needs to find the
same diagnostics, a failed lookup is as good as none, and nothing is asked of the format pass or of
what is kept in the journal.
-/
namespace LintRepair

/-- What a watcher is told about a cycle: all but the output of its lint. -/
structure Notice where
  iter : UInt32
  version : UInt32
  diagnostics : List Diagnostic
  repair : Option Repair
deriving DecidableEq

def Cycle.notice (x : Cycle) : Notice := ⟨x.pass.iter, x.pass.version, x.pass.diagnostics, x.repair⟩

/-- A call to a collaborator with its arguments, or a report. -/
inductive Call where
  | read
  | write (text : String)
  | lint (q : CommandRequest)
  | explain (code : String)
  | format
  | repair (r : RepairRequest)
  | report (notice : Notice)
deriving DecidableEq

/-- The call without its answer. The journal is not called. -/
def Event.call? {ε : Type} : Event ε → Option Call
  | .read _ => some .read
  | .write text _ => some (.write text)
  | .lint q _ => some (.lint q)
  | .explain code _ => some (.explain code)
  | .format _ => some .format
  | .repair r _ => some (.repair r)
  | .report x => some (.report x.notice)
  | .record _ => none

def LoopError.map {ε μ : Type} (f : ε → μ) : LoopError ε → LoopError μ
  | .read e => .read (f e)
  | .lint e => .lint (f e)
  | .restore e => .restore (f e)
  | .repair e => .repair (f e)
  | .write e => .write (f e)

namespace Collaborators
variable {σ τ ε μ α β : Type}

/-- Two calls that fail with errors that read the same or give answers that are alike, and that lead
to related states. -/
inductive Answers (message : ε → μ) (like : α → β) (R : σ → τ → Prop) :
    Except ε α × σ → Except ε α × τ → Prop where
  | failed {e f : ε} {s : σ} {t : τ} (same : message e = message f) (related : R s t) :
      Answers message like R (.error e, s) (.error f, t)
  | given {a b : α} {s : σ} {t : τ} (same : like a = like b) (related : R s t) :
      Answers message like R (.ok a, s) (.ok b, t)

/-- From related states two collaborators answer alike, and their states stay related. Of a lint only
the diagnostics count, of a lookup only the text, and of the format pass nothing. -/
structure Alike (message : ε → μ) (R : σ → τ → Prop) (c : Collaborators σ ε)
    (d : Collaborators τ ε) : Prop where
  path : c.path = d.path
  read : ∀ {s t}, R s t → Answers message id R (c.read s) (d.read t)
  write : ∀ text {s t}, R s t → Answers message id R (c.write text s) (d.write text t)
  lint : ∀ q {s t}, R s t →
    Answers message (fun output => Diagnostic.extract output.stderr) R (c.lint q s) (d.lint q t)
  explain : ∀ code q {s t}, R s t →
    (c.explain code q s).1.toOption.join = (d.explain code q t).1.toOption.join ∧
      R (c.explain code q s).2 (d.explain code q t).2
  repair : ∀ r {s t}, R s t → Answers message id R (c.repair r s) (d.repair r t)
  report : ∀ {x y : Cycle} {s t}, x.notice = y.notice → R s t → R (c.report x s) (d.report y t)
  record : ∀ {x y : Cycle} {s t}, x.notice = y.notice → R s t → R (c.record x s) (d.record y t)

namespace Alike
variable {message : ε → μ} {R F : σ → τ → Prop} {c : Collaborators σ ε} {d : Collaborators τ ε}
variable {s : σ} {t : τ} {lint lint' : LintOutput}

theorem lookUp_eq (alike : Alike message R c d) (q : CommandRequest) (known : Lookups)
    (code : String) (related : R s t) :
    (c.lookUp q known code s).1 = (d.lookUp q known code t).1 ∧
      (c.lookUp q known code s).2.1 = (d.lookUp q known code t).2.1 ∧
      R (c.lookUp q known code s).2.2 (d.lookUp q known code t).2.2 := by
  unfold Collaborators.lookUp
  cases known.lookup code with
  | some text => exact ⟨rfl, rfl, related⟩
  | none =>
    obtain ⟨same, related⟩ := alike.explain code q related
    generalize c.explain code q s = x at same related
    generalize d.explain code q t = y at same related
    rcases x with ⟨e | text, s₁⟩ <;> rcases y with ⟨f | text', t₁⟩ <;>
      simp only [Except.toOption, Option.join_none, Option.join_some] at same
    · exact ⟨rfl, rfl, related⟩
    · subst same
      exact ⟨rfl, rfl, related⟩
    · subst same
      exact ⟨rfl, rfl, related⟩
    · subst same
      exact ⟨rfl, rfl, related⟩

theorem explanationsAfter_eq (alike : Alike message R c d) (q : CommandRequest)
    (gathered : List Explanation) (known : Lookups) (ds : List Diagnostic) (related : R s t) :
    (c.explanationsAfter q gathered known ds s).1 = (d.explanationsAfter q gathered known ds t).1 ∧
      (c.explanationsAfter q gathered known ds s).2.1 =
        (d.explanationsAfter q gathered known ds t).2.1 ∧
      R (c.explanationsAfter q gathered known ds s).2.2
        (d.explanationsAfter q gathered known ds t).2.2 := by
  induction ds generalizing gathered known s t with
  | nil => exact ⟨rfl, rfl, related⟩
  | cons x ds ih =>
    simp only [explanationsAfter]
    split
    · exact ih gathered known related
    · obtain ⟨text, lookups, related⟩ := alike.lookUp_eq q known x.code related
      generalize c.lookUp q known x.code s = found at text lookups related
      generalize d.lookUp q known x.code t = found' at text lookups related
      obtain ⟨text₁, known₁, s₁⟩ := found
      obtain ⟨text₂, known₂, t₁⟩ := found'
      obtain rfl : text₁ = text₂ := text
      obtain rfl : known₁ = known₂ := lookups
      cases text₁ with
      | none => exact ih gathered known₁ related
      | some text => exact ih _ known₁ related

theorem abandon_eq (alike : Alike message R c d) (p : Progress) {e f : ε}
    (same : message e = message f) (related : R s t) :
    (c.abandon p e s).1.map message = (d.abandon p f t).1.map message ∧
      R (c.abandon p e s).2 (d.abandon p f t).2 := by
  unfold abandon
  cases p.candidate with
  | none => exact ⟨congrArg LoopError.lint same, related⟩
  | some v =>
    have written := alike.write p.committed.text related
    generalize c.write p.committed.text s = x at written
    generalize d.write p.committed.text t = y at written
    cases written with
    | failed same related => exact ⟨congrArg LoopError.restore same, related⟩
    | given _ related => exact ⟨congrArg LoopError.lint same, related⟩

theorem notice_pass (p : Progress)
    (found : Diagnostic.extract lint.stderr = Diagnostic.extract lint'.stderr) (r : Option Repair) :
    Cycle.notice ⟨p.pass lint, r⟩ = Cycle.notice ⟨p.pass lint', r⟩ := by
  simp only [Cycle.notice, Progress.pass, found]

theorem answers_mend (alike : Alike message R c d) (plan : LoopPlan) (p : Progress)
    (found : Diagnostic.extract lint.stderr = Diagnostic.extract lint'.stderr) (related : R s t) :
    Answers (LoopError.map message) id R (c.mend plan p (p.pass lint) s)
      (d.mend plan p (p.pass lint') t) := by
  have same : (p.pass lint).diagnostics = (p.pass lint').diagnostics := found
  unfold mend explanations
  rw [same, alike.path]
  generalize (p.pass lint').diagnostics = ds
  have explained := alike.explanationsAfter_eq plan.request [] p.lookups ds related
  generalize c.explanationsAfter plan.request [] p.lookups ds s = x at explained
  generalize d.explanationsAfter plan.request [] p.lookups ds t = y at explained
  obtain ⟨known, lookups, s₁⟩ := x
  obtain ⟨known', lookups', t₁⟩ := y
  obtain ⟨rfl, rfl, related⟩ : known = known' ∧ lookups = lookups' ∧ R s₁ t₁ := explained
  simp only
  have repaired := alike.repair ⟨d.path, p.current.text, ds, known⟩ related
  generalize c.repair ⟨d.path, p.current.text, ds, known⟩ s₁ = x at repaired
  generalize d.repair ⟨d.path, p.current.text, ds, known⟩ t₁ = y at repaired
  cases repaired with
  | failed same related => exact .failed (congrArg LoopError.repair same) related
  | @given r r' s₂ t₂ same related =>
    obtain rfl : r = r' := same
    have written := alike.write r.source related
    simp only
    generalize c.write r.source s₂ = x at written
    generalize d.write r.source t₂ = y at written
    cases written with
    | failed same related => exact .failed (congrArg LoopError.write same) related
    | given _ related =>
      have told := notice_pass p found (some r)
      exact .given rfl (alike.report told (alike.record told related))

section Closing
variable (formatted : ∀ q {s t}, R s t → F (c.format q s).2 (d.format q t).2)
variable (weaken : ∀ {s t}, R s t → F s t)
include formatted weaken

/-- Passes answer alike. `R` holds until the run ends, and only `F` behind its format pass. -/
theorem answers_passes (alike : Alike message R c d) (plan : LoopPlan) (left : Nat) (p : Progress)
    (related : R s t) :
    Answers (LoopError.map message) id F (c.passes plan left p s) (d.passes plan left p t) := by
  induction left using Nat.strongRecOn generalizing p s t with
  | ind left ih =>
    have answer := alike.lint plan.request related
    generalize linted : c.lint plan.request s = x at answer
    generalize linted' : d.lint plan.request t = y at answer
    cases answer with
    | failed same related =>
      rw [passes_of_lint_error linted, passes_of_lint_error linted']
      obtain ⟨failure, related⟩ := alike.abandon_eq p same related
      exact .failed failure (weaken related)
    | @given lint lint' s₁ t₁ same related =>
      have told := notice_pass p same none
      have diagnostics : (p.pass lint).diagnostics = (p.pass lint').diagnostics := same
      by_cases found : (p.pass lint).diagnostics = []
      · rw [passes_of_clean linted found, passes_of_clean linted' (diagnostics ▸ found)]
        exact .given rfl (formatted plan.request (alike.report told (alike.record told related)))
      have found' : (p.pass lint').diagnostics ≠ [] := diagnostics ▸ found
      have reported := alike.report told related
      cases left with
      | zero =>
        rw [passes_zero_of_found linted found, passes_zero_of_found linted' found']
        refine .given ?_ (weaken (alike.record told reported))
        simp only [diagnostics]
      | succ left =>
        have answer := alike.answers_mend plan p same reported
        generalize mended :
          c.mend plan p (p.pass lint) (c.report ⟨p.pass lint, none⟩ s₁) = x at answer
        generalize mended' :
          d.mend plan p (p.pass lint') (d.report ⟨p.pass lint', none⟩ t₁) = y at answer
        cases answer with
        | failed same related =>
          rw [passes_succ_of_unmended linted found mended,
            passes_succ_of_unmended linted' found' mended']
          exact .failed same (weaken related)
        | @given q q' _ _ same related =>
          obtain rfl : q = q' := same
          rw [passes_succ_of_mended linted found mended,
            passes_succ_of_mended linted' found' mended']
          exact ih left (Nat.lt_succ_self left) q related

theorem answers_run (alike : Alike message R c d) (plan : LoopPlan) (related : R s t) :
    Answers (LoopError.map message) id F (c.run plan s) (d.run plan t) := by
  unfold run
  have answer := alike.read related
  generalize c.read s = x at answer
  generalize d.read t = y at answer
  cases answer with
  | failed same related => exact .failed (congrArg LoopError.read same) (weaken related)
  | @given text text' _ _ same related =>
    obtain rfl : text = text' := same
    exact alike.answers_passes formatted weaken plan _ _ related

end Closing
end Alike
end Collaborators
end LintRepair
