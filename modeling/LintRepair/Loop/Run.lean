import LintRepair.Loop.Explain

/-!
The repair loop: lint, and while something is found and the budget lasts, ask for a repair and write
it. A written repair is a candidate until the next lint has run; if that lint fails, the version
before the candidate is written back. The recursion is on the repairs that may still be made.
-/
namespace LintRepair

structure Progress where
  iter : UInt32
  repairs : UInt32
  committed : Version
  candidate : Option Version
  lookups : Lookups
deriving DecidableEq, Repr

namespace Progress

def start (text : String) : Progress := ⟨0, 0, .first text, none, []⟩

def current (p : Progress) : Version := p.candidate.getD p.committed

def pass (p : Progress) (lint : LintOutput) : Pass :=
  ⟨p.iter + 1, p.current.number, lint, Diagnostic.extract lint.stderr⟩

def repaired (p : Progress) (lookups : Lookups) (r : Repair) : Progress :=
  ⟨p.iter + 1, p.repairs + 1, p.current, some (p.current.next r.source), lookups⟩

end Progress

namespace Collaborators
variable {σ ε : Type}

/-- Ending on a failed lint: a candidate gives way to the version before it. -/
def abandon (c : Collaborators σ ε) (p : Progress) (e : ε) (s : σ) : LoopError ε × σ :=
  match p.candidate with
  | none => (.lint e, s)
  | some _ =>
    match c.write p.committed.text s with
    | (.ok (), s₁) => (.lint e, s₁)
    | (.error f, s₁) => (.restore f, s₁)

/-- Ending on a clean pass. A failing format pass changes nothing. -/
def converge (c : Collaborators σ ε) (plan : LoopPlan) (p : Progress) (pass : Pass) (s : σ) :
    LoopOutcome × σ :=
  let s₁ := c.record ⟨pass, none⟩ s
  let s₂ := c.report ⟨pass, none⟩ s₁
  (⟨p.repairs, .converged pass.iter⟩, (c.format plan.request s₂).2)

def exhaust (c : Collaborators σ ε) (plan : LoopPlan) (p : Progress) (pass : Pass) (s : σ) :
    LoopOutcome × σ :=
  (⟨p.repairs, .exceeded plan.maxIterations pass.diagnostics.length⟩, c.record ⟨pass, none⟩ s)

def mend (c : Collaborators σ ε) (plan : LoopPlan) (p : Progress) (pass : Pass) (s : σ) :
    Except (LoopError ε) Progress × σ :=
  match c.explanations plan.request p.lookups pass.diagnostics s with
  | (known, lookups, s₁) =>
    match c.repair ⟨c.path, p.current.text, pass.diagnostics, known⟩ s₁ with
    | (.error e, s₂) => (.error (.repair e), s₂)
    | (.ok r, s₂) =>
      match c.write r.source s₂ with
      | (.error e, s₃) => (.error (.write e), s₃)
      | (.ok (), s₃) =>
        (.ok (p.repaired lookups r), c.report ⟨pass, some r⟩ (c.record ⟨pass, some r⟩ s₃))

def passes (c : Collaborators σ ε) (plan : LoopPlan) :
    Nat → Progress → σ → Except (LoopError ε) LoopOutcome × σ
  | left, p, s =>
    match c.lint plan.request s with
    | (.error e, s₁) =>
      match c.abandon p e s₁ with
      | (failure, s₂) => (.error failure, s₂)
    | (.ok lint, s₁) =>
      let pass := p.pass lint
      if pass.diagnostics.isEmpty then
        match c.converge plan p pass s₁ with
        | (outcome, s₂) => (.ok outcome, s₂)
      else
        let s₂ := c.report ⟨pass, none⟩ s₁
        match left with
        | 0 =>
          match c.exhaust plan p pass s₂ with
          | (outcome, s₃) => (.ok outcome, s₃)
        | left + 1 =>
          match c.mend plan p pass s₂ with
          | (.error e, s₃) => (.error e, s₃)
          | (.ok q, s₃) => c.passes plan left q s₃

def run (c : Collaborators σ ε) (plan : LoopPlan) (s : σ) :
    Except (LoopError ε) LoopOutcome × σ :=
  match c.read s with
  | (.error e, s₁) => (.error (.read e), s₁)
  | (.ok text, s₁) => c.passes plan plan.maxIterations.toNat (.start text) s₁

end Collaborators
end LintRepair
