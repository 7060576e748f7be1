import LintRepair.Proofs.Diagnostic.Cut
import LintRepair.Proofs.Loop.Service

/-!
What a run that converged knows about its last lint. The loop sees the first bytes of the lint
command's error output, and finding nothing there rules out a diagnostic in any part that ends by
then. About an output that was cut it says no more.
-/
namespace LintRepair

namespace Diagnostic
open Text

/-- The diagnostics in the first bytes of an output, against those of the whole. -/
theorem cut_extract_take (n : Nat) (bytes : List UInt8) :
    Cut (extract (lossyText (bytes.take n))) (extract (lossyText bytes)) := by
  obtain ⟨kept, broken, rest, start, ending, whole⟩ :=
    Utf8.exists_decodeLossy_append (bytes.take n) (bytes.drop n)
  rw [List.take_append_drop] at whole
  have related := cut_extract kept rest ending
  rwa [← start, ← whole] at related

theorem extract_take_eq_nil {n limit : Nat} {bytes : List UInt8} (le : n ≤ limit)
    (clean : extract (lossyText (bytes.take limit)) = []) :
    extract (lossyText (bytes.take n)) = [] := by
  have related := cut_extract_take n (bytes.take limit)
  rw [List.take_take, Nat.min_eq_left le] at related
  have fewer := related.length_le
  rw [clean, List.length_nil, Nat.le_zero] at fewer
  exact List.eq_nil_of_length_eq_zero fewer

end Diagnostic

namespace Toolchain
variable {tools : Toolchain} {programs : Programs} {base : List String} {q : CommandRequest}
variable {t : Tree} {output : LintOutput}

/-- A lint output is what is kept of a command that ran to its end. -/
theorem exists_of_runLint (h : (tools.runLint programs base q t).1 = .ok output) :
    ∃ e : Execution, (programs tools.lint base q t).1 = .ok e ∧ e.ending ≠ .timedOut ∧
      output = lintOutput (e.capture q.outputLimit) := by
  unfold runLint runToEnd runCommand at h
  cases words : tools.lint with
  | nil =>
    rw [words] at h
    cases h
  | cons program arguments =>
    rw [words] at h
    rcases ran : programs (program :: arguments) base q t with ⟨f | e, after⟩
    · simp only [ran] at h
      cases h
    · simp only [ran] at h
      by_cases late : (e.capture q.outputLimit).ending = .timedOut
      · rw [if_pos late] at h
        cases h
      · rw [if_neg late] at h
        exact ⟨e, rfl, late, (Except.ok.inj h).symm⟩

end Toolchain

namespace Collaborators
variable {σ ε : Type}

/-- Linting runs the lint command of these tools, with programs and files that the state shows. -/
structure RunsLint (c : Collaborators σ ε) (tools : Toolchain) (programs : σ → Programs)
    (base : List String) (tree : σ → Tree) (failure : ToolError → ε) : Prop where
  lint : ∀ q s, (c.lint q s).1 = (tools.runLint (programs s) base q (tree s)).1.mapError failure

theorem runsLint_project (p : Project) (u : Surroundings) :
    (p.collaborators u).RunsLint p.toolchain (fun w => u.programs u.environment w.started) u.cwd
      World.tree .tool where
  lint _ _ := rfl

variable {c : Collaborators σ ε} {tools : Toolchain} {programs : σ → Programs}
variable {base : List String} {tree : σ → Tree} {failure : ToolError → ε} {plan : LoopPlan}
variable {s t : σ} {k i : UInt32} {output : LintOutput}

theorem RunsLint.exists_execution (runs : c.RunsLint tools programs base tree failure)
    {q : CommandRequest} (linted : (c.lint q t).1 = .ok output) :
    ∃ e : Execution, (programs t tools.lint base q (tree t)).1 = .ok e ∧ e.ending ≠ .timedOut ∧
      output.stderr = lossyText (e.stderr.flatten.take q.outputLimit) := by
  rw [runs.lint] at linted
  rcases ran : (tools.runLint (programs t) base q (tree t)).1 with f | x
  · rw [ran] at linted
    cases linted
  · rw [ran] at linted
    obtain rfl : x = output := Except.ok.inj linted
    obtain ⟨e, executed, inTime, rfl⟩ := Toolchain.exists_of_runLint ran
    have holds := Capture.holds_ofChunks q.outputLimit e.stderr
    exact ⟨e, executed, inTime, congrArg lossyText holds.kept⟩

/-- A run converges on a lint that is its last and found nothing. -/
theorem exists_lint_of_converged (converged : (c.run plan s).1 = .ok ⟨k, .converged i⟩) :
    ∃ earlier t output later,
      c.history plan s = earlier ++ ⟨t, .lint plan.request (.ok output)⟩ :: later ∧
        lints later = [] ∧ (c.lint plan.request t).1 = .ok output ∧
        Diagnostic.extract output.stderr = [] := by
  revert converged
  refine run_cases c plan s ?_ ?_
  · exact nofun
  · intro text n q s₁ t ms ends answer u read few rounds ending converged
    generalize plan.maxIterations.toNat - n = left at ending
    cases ending with
    | clean linted clean formatted =>
      exact ⟨⟨s, .read (.ok text)⟩ :: ms, t, _, _, rfl, rfl, by rw [linted], clean⟩
    | _ => cases converged

/-- When a run converges, its last lint command ran to its end, and no beginning of its error output
that is within the output limit holds a diagnostic; so neither does the whole output unless it is
longer than the limit. -/
theorem run_converged (runs : c.RunsLint tools programs base tree failure)
    (converged : (c.run plan s).1 = .ok ⟨k, .converged i⟩) :
    ∃ earlier t output later e,
      c.history plan s = earlier ++ ⟨t, .lint plan.request (.ok output)⟩ :: later ∧
        lints later = [] ∧
        (programs t tools.lint base plan.request (tree t)).1 = .ok e ∧ e.ending ≠ .timedOut ∧
        (∀ n ≤ plan.request.outputLimit,
          Diagnostic.extract (lossyText (e.stderr.flatten.take n)) = []) ∧
        (e.stderr.flatten.length ≤ plan.request.outputLimit →
          Diagnostic.extract (lossyText e.stderr.flatten) = []) := by
  obtain ⟨earlier, t, output, later, split, last, linted, clean⟩ :=
    exists_lint_of_converged converged
  obtain ⟨e, executed, inTime, kept⟩ := runs.exists_execution linted
  rw [kept] at clean
  refine ⟨earlier, t, output, later, e, split, last, executed, inTime, ?_, ?_⟩
  · intro n le
    exact Diagnostic.extract_take_eq_nil le clean
  · intro fits
    rwa [List.take_of_length_le fits] at clean

/-- A complaint that is as long as the limit is seen, and the run converges on the output behind the
repair. -/
theorem run_converged_repaired :
    let p := Lab.project 34
    let u := Lab.surroundings [.ok Lab.complaint, .ok { stderr := [utf8 "Finished\n"] }]
    let s := Lab.world "f(x);" [Lab.offer "f(1);"]
    let c := p.collaborators u
    let plan := LoopPlan.ofConfig p.root p.config
    let programs := fun w : World => u.programs u.environment w.started
    c.RunsLint p.toolchain programs u.cwd World.tree .tool ∧
      (c.run plan s).1 = .ok ⟨1, .converged 2⟩ ∧
      ∃ t e, (programs t p.toolchain.lint u.cwd plan.request t.tree).1 = .ok e ∧
        ∀ n ≤ plan.request.outputLimit,
          Diagnostic.extract (lossyText (e.stderr.flatten.take n)) = [] := by
  intro p u s c plan programs
  have runs : c.RunsLint p.toolchain programs u.cwd World.tree .tool := runsLint_project p u
  have converged : (c.run plan s).1 = .ok ⟨1, .converged 2⟩ := by decide +kernel
  obtain ⟨-, t, -, -, e, -, -, executed, -, clean, -⟩ := run_converged runs converged
  exact ⟨runs, converged, t, e, executed, clean⟩

/-- A diagnostic whose last line begins at the limit goes unseen: the run converges on it. -/
theorem run_converged_unseen :
    let p := Lab.project 32
    let u := Lab.surroundings [.ok Lab.complaint]
    let s := Lab.world "f(x);" []
    (p.repair u s).1 = .ok ⟨0, .converged 1⟩ ∧
      (u.programs u.environment [] p.toolchain.lint u.cwd
        (LoopPlan.ofConfig p.root p.config).request s.tree).1 = .ok Lab.complaint ∧
      Lab.complaint.ending = .exited 1 ∧
      Diagnostic.extract (lossyText Lab.complaint.stderr.flatten) ≠ [] := by
  decide +kernel

end Collaborators
end LintRepair
