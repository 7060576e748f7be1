import LintRepair.Loop.Trace
import LintRepair.Proofs.Loop.Step

/-!
The history of a run: every call a loop makes, with its answer and the state it was made in. Keeping
it changes no answer of the run, and without the states it is the list of the run's events.
-/
namespace LintRepair

/-- A call and the state it was made in. -/
structure Moment (σ ε : Type) where
  before : σ
  event : Event ε

namespace Collaborators
variable {σ τ ε α : Type}

/-- A call kept with the state it was made in. -/
def dated (call : σ → α × σ) (event : α → Event ε) (s : σ × List (Moment σ ε)) :
    α × σ × List (Moment σ ε) :=
  ((call s.1).1, (call s.1).2, ⟨s.1, event (call s.1).1⟩ :: s.2)

/-- The collaborators with every call kept, the last one first. -/
def chronicled (c : Collaborators σ ε) : Collaborators (σ × List (Moment σ ε)) ε where
  path := c.path
  read := dated c.read .read
  write text := dated (c.write text) (.write text)
  lint q := dated (c.lint q) (.lint q)
  explain code q := dated (c.explain code q) (.explain code)
  format q := dated (c.format q) .format
  repair r := dated (c.repair r) (.repair r)
  report cycle s := (c.report cycle s.1, ⟨s.1, .report cycle⟩ :: s.2)
  record cycle s := (c.record cycle s.1, ⟨s.1, .record cycle⟩ :: s.2)

section Calls
variable {c : Collaborators σ ε} {s t : σ}

theorem dated_eq {call : σ → α × σ} {event : α → Event ε} {a : α} (h : call s = (a, t))
    (old : List (Moment σ ε)) : dated call event (s, old) = (a, t, ⟨s, event a⟩ :: old) := by
  rw [dated, h]

theorem chronicled_read {a : Except ε String} (h : c.read s = (a, t))
    (old : List (Moment σ ε)) : c.chronicled.read (s, old) = (a, t, ⟨s, .read a⟩ :: old) :=
  dated_eq h old

theorem chronicled_write {text : String} {a : Except ε Unit} (h : c.write text s = (a, t))
    (old : List (Moment σ ε)) :
    c.chronicled.write text (s, old) = (a, t, ⟨s, .write text a⟩ :: old) :=
  dated_eq h old

theorem chronicled_lint {q : CommandRequest} {a : Except ε LintOutput} (h : c.lint q s = (a, t))
    (old : List (Moment σ ε)) : c.chronicled.lint q (s, old) = (a, t, ⟨s, .lint q a⟩ :: old) :=
  dated_eq h old

theorem chronicled_repair {r : RepairRequest} {a : Except ε Repair} (h : c.repair r s = (a, t))
    (old : List (Moment σ ε)) :
    c.chronicled.repair r (s, old) = (a, t, ⟨s, .repair r a⟩ :: old) :=
  dated_eq h old

theorem chronicled_report (cycle : Cycle) (old : List (Moment σ ε)) :
    c.chronicled.report cycle (s, old) = (c.report cycle s, ⟨s, .report cycle⟩ :: old) := rfl

theorem chronicled_record (cycle : Cycle) (old : List (Moment σ ε)) :
    c.chronicled.record cycle (s, old) = (c.record cycle s, ⟨s, .record cycle⟩ :: old) := rfl

end Calls

/-- The calls of a run in their order, each with the state it was made in. -/
def history (c : Collaborators σ ε) (plan : LoopPlan) (s : σ) : List (Moment σ ε) :=
  (c.chronicled.run plan (s, [])).2.2.reverse

/-- The answers of `c` are those of `d` at the part of the state that `f` shows. -/
structure Shows (f : τ → σ) (c : Collaborators τ ε) (d : Collaborators σ ε) : Prop where
  path : d.path = c.path
  read : ∀ t, d.read (f t) = Prod.map id f (c.read t)
  write : ∀ text t, d.write text (f t) = Prod.map id f (c.write text t)
  lint : ∀ q t, d.lint q (f t) = Prod.map id f (c.lint q t)
  explain : ∀ code q t, d.explain code q (f t) = Prod.map id f (c.explain code q t)
  format : ∀ q t, d.format q (f t) = Prod.map id f (c.format q t)
  repair : ∀ r t, d.repair r (f t) = Prod.map id f (c.repair r t)
  report : ∀ cycle t, d.report cycle (f t) = f (c.report cycle t)
  record : ∀ cycle t, d.record cycle (f t) = f (c.record cycle t)

namespace Shows
variable {f : τ → σ} {c : Collaborators τ ε} {d : Collaborators σ ε}

theorem lookUp_eq (h : Shows f c d) (q : CommandRequest) (known : Lookups) (code : String) (t : τ) :
    d.lookUp q known code (f t) =
      Prod.map id (Prod.map id f) (c.lookUp q known code t) := by
  unfold Collaborators.lookUp
  cases known.lookup code with
  | some text => rfl
  | none =>
    rw [h.explain]
    rcases c.explain code q t with ⟨_ | text, t₁⟩ <;> rfl

theorem explanationsAfter_eq (h : Shows f c d) (q : CommandRequest) (gathered : List Explanation)
    (known : Lookups) (ds : List Diagnostic) (t : τ) :
    d.explanationsAfter q gathered known ds (f t) =
      Prod.map id (Prod.map id f) (c.explanationsAfter q gathered known ds t) := by
  induction ds generalizing gathered known t with
  | nil => rfl
  | cons x ds ih =>
    simp only [explanationsAfter]
    split
    · exact ih gathered known t
    · rw [h.lookUp_eq]
      rcases c.lookUp q known x.code t with ⟨_ | text, known₁, t₁⟩
      · exact ih gathered known₁ t₁
      · exact ih _ known₁ t₁

theorem abandon_eq (h : Shows f c d) (p : Progress) (e : ε) (t : τ) :
    d.abandon p e (f t) = Prod.map id f (c.abandon p e t) := by
  unfold abandon
  cases p.candidate with
  | none => rfl
  | some _ =>
    simp only [h.write]
    rcases c.write p.committed.text t with ⟨_ | _, t₁⟩ <;> rfl

theorem converge_eq (h : Shows f c d) (plan : LoopPlan) (p : Progress) (pass : Pass) (t : τ) :
    d.converge plan p pass (f t) = Prod.map id f (c.converge plan p pass t) := by
  simp only [converge, h.record, h.report, h.format, Prod.map, id]

theorem mend_eq (h : Shows f c d) (plan : LoopPlan) (p : Progress) (pass : Pass) (t : τ) :
    d.mend plan p pass (f t) = Prod.map id f (c.mend plan p pass t) := by
  obtain ⟨known, lookups, t₁, hx⟩ : ∃ known lookups t₁,
      c.explanations plan.request p.lookups pass.diagnostics t = (known, lookups, t₁) :=
    ⟨_, _, _, rfl⟩
  have hx' : d.explanations plan.request p.lookups pass.diagnostics (f t) =
      (known, lookups, f t₁) := by
    rw [explanations, h.explanationsAfter_eq, ← explanations, hx]
    rfl
  rcases hr : c.repair ⟨c.path, p.current.text, pass.diagnostics, known⟩ t₁ with ⟨e | r, t₂⟩
  · have hr' := h.repair ⟨d.path, p.current.text, pass.diagnostics, known⟩ t₁
    rw [h.path, hr, ← h.path] at hr'
    rw [mend_of_unrepaired hx hr, mend_of_unrepaired hx' hr']
    rfl
  · have hr' := h.repair ⟨d.path, p.current.text, pass.diagnostics, known⟩ t₁
    rw [h.path, hr, ← h.path] at hr'
    have hw' := h.write r.source t₂
    rcases hw : c.write r.source t₂ with ⟨e | _, t₃⟩
    · rw [hw] at hw'
      rw [mend_of_unwritten hx hr hw, mend_of_unwritten hx' hr' hw']
      rfl
    · rw [hw] at hw'
      rw [mend_of_written hx hr hw, mend_of_written hx' hr' hw', h.record, h.report]
      rfl

theorem passes_eq (h : Shows f c d) (plan : LoopPlan) (left : Nat) (p : Progress) (t : τ) :
    d.passes plan left p (f t) = Prod.map id f (c.passes plan left p t) := by
  induction left using Nat.strongRecOn generalizing p t with
  | ind left ih =>
    have hl' := h.lint plan.request t
    rcases hl : c.lint plan.request t with ⟨e | lint, t₁⟩ <;> rw [hl] at hl'
    · rw [passes_of_lint_error hl, passes_of_lint_error hl', h.abandon_eq]
      rfl
    by_cases found : (p.pass lint).diagnostics = []
    · rw [passes_of_clean hl found, passes_of_clean hl' found, h.converge_eq]
      rfl
    cases left with
    | zero =>
      rw [passes_zero_of_found hl found, passes_zero_of_found hl' found, h.report]
      simp only [exhaust, h.record, Prod.map, id]
    | succ left =>
      have hm' := h.mend_eq plan p (p.pass lint) (c.report ⟨p.pass lint, none⟩ t₁)
      rcases hm : c.mend plan p (p.pass lint) (c.report ⟨p.pass lint, none⟩ t₁) with
        ⟨failure | q, t₂⟩ <;> rw [hm, ← h.report] at hm'
      · rw [passes_succ_of_unmended hl found hm, passes_succ_of_unmended hl' found hm']
        rfl
      · rw [passes_succ_of_mended hl found hm, passes_succ_of_mended hl' found hm',
          ih left (Nat.lt_succ_self left)]

/-- Answers and the shown part of the state are the same at the end of a run. -/
theorem run_eq (h : Shows f c d) (plan : LoopPlan) (t : τ) :
    d.run plan (f t) = Prod.map id f (c.run plan t) := by
  simp only [run, h.read]
  rcases c.read t with ⟨_ | text, t₁⟩
  · rfl
  · exact h.passes_eq plan _ _ t₁

end Shows

theorem shows_chronicled (c : Collaborators σ ε) : Shows Prod.fst c.chronicled c where
  path := rfl
  read _ := rfl
  write _ _ := rfl
  lint _ _ := rfl
  explain _ _ _ := rfl
  format _ _ := rfl
  repair _ _ := rfl
  report _ _ := rfl
  record _ _ := rfl

/-- What was noted before a run stands behind all that the run notes. -/
theorem shows_behind (c : Collaborators σ ε) (old : List (Moment σ ε)) :
    Shows (fun s => (s.1, s.2 ++ old)) c.chronicled c.chronicled where
  path := rfl
  read _ := rfl
  write _ _ := rfl
  lint _ _ := rfl
  explain _ _ _ := rfl
  format _ _ := rfl
  repair _ _ := rfl
  report _ _ := rfl
  record _ _ := rfl

def forgetStates (s : σ × List (Moment σ ε)) : σ × List (Event ε) := (s.1, s.2.map Moment.event)

theorem shows_traced (c : Collaborators σ ε) : Shows forgetStates c.chronicled c.traced where
  path := rfl
  read _ := rfl
  write _ _ := rfl
  lint _ _ := rfl
  explain _ _ _ := rfl
  format _ _ := rfl
  repair _ _ := rfl
  report _ _ := rfl
  record _ _ := rfl

/-- The events of a run are its history without the states. -/
theorem events_eq_map_history (c : Collaborators σ ε) (plan : LoopPlan) (s : σ) :
    c.events plan s = (c.history plan s).map Moment.event := by
  have h := c.shows_traced.run_eq plan (s, [])
  rw [events, show (s, []) = forgetStates ((s, []) : σ × List (Moment σ ε)) from rfl, h]
  simp [history, forgetStates]

end Collaborators
end LintRepair
