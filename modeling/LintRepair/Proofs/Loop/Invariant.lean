import LintRepair.Proofs.Loop.Round

/-!
Invariants of runs. What every call of the collaborators preserves holds at the end of a run, and a
statement about a state and the calls so far that every call carries on holds of the whole history.
-/
namespace LintRepair.Collaborators
variable {σ ε : Type}

/-- Every call preserves the property of the state. -/
structure Preserves (c : Collaborators σ ε) (P : σ → Prop) : Prop where
  read : ∀ {s}, P s → P (c.read s).2
  write : ∀ text {s}, P s → P (c.write text s).2
  lint : ∀ q {s}, P s → P (c.lint q s).2
  explain : ∀ code q {s}, P s → P (c.explain code q s).2
  format : ∀ q {s}, P s → P (c.format q s).2
  repair : ∀ r {s}, P s → P (c.repair r s).2
  report : ∀ cycle {s}, P s → P (c.report cycle s)
  record : ∀ cycle {s}, P s → P (c.record cycle s)

/-- A call that is made in one state with its answer there, and leads to the other state. -/
inductive Made (c : Collaborators σ ε) (s : σ) : Event ε → σ → Prop where
  | read : Made c s (.read (c.read s).1) (c.read s).2
  | write (text : String) : Made c s (.write text (c.write text s).1) (c.write text s).2
  | lint (q : CommandRequest) : Made c s (.lint q (c.lint q s).1) (c.lint q s).2
  | explain (code : String) (q : CommandRequest) :
      Made c s (.explain code (c.explain code q s).1) (c.explain code q s).2
  | format (q : CommandRequest) : Made c s (.format (c.format q s).1) (c.format q s).2
  | repair (r : RepairRequest) : Made c s (.repair r (c.repair r s).1) (c.repair r s).2
  | report (cycle : Cycle) : Made c s (.report cycle) (c.report cycle s)
  | record (cycle : Cycle) : Made c s (.record cycle) (c.record cycle s)

variable {c : Collaborators σ ε} {plan : LoopPlan} {s : σ}

section Preserves
variable {P : σ → Prop}

theorem Preserves.abandon (h : c.Preserves P) (p : Progress) (e : ε) (hs : P s) :
    P (c.abandon p e s).2 := by
  have written := h.write p.committed.text hs
  unfold Collaborators.abandon
  split
  · exact hs
  · split <;> rename_i eq <;> rwa [eq] at written

theorem Preserves.mend (h : c.Preserves P) (p : Progress) (pass : Pass) (hs : P s) :
    P (c.mend plan p pass s).2 := by
  have explained := explanations_preserves (fun code q s hs => h.explain code q hs) plan.request
    p.lookups pass.diagnostics hs
  rcases hx : c.explanations plan.request p.lookups pass.diagnostics s with ⟨known, lookups, s₁⟩
  rw [hx] at explained
  have repaired := h.repair ⟨c.path, p.current.text, pass.diagnostics, known⟩ explained
  rcases hr : c.repair ⟨c.path, p.current.text, pass.diagnostics, known⟩ s₁ with ⟨e | r, s₂⟩ <;>
    rw [hr] at repaired
  · rw [mend_of_unrepaired hx hr]
    exact repaired
  have written := h.write r.source repaired
  rcases hw : c.write r.source s₂ with ⟨e | _, s₃⟩ <;> rw [hw] at written
  · rw [mend_of_unwritten hx hr hw]
    exact written
  · rw [mend_of_written hx hr hw]
    exact h.report _ (h.record _ written)

theorem Preserves.passes (h : c.Preserves P) (left : Nat) (p : Progress) (hs : P s) :
    P (c.passes plan left p s).2 := by
  induction left using Nat.strongRecOn generalizing p s with
  | ind left ih =>
    have linted := h.lint plan.request hs
    rcases hl : c.lint plan.request s with ⟨e | lint, s₁⟩ <;> rw [hl] at linted
    · rw [passes_of_lint_error hl]
      exact h.abandon p e linted
    by_cases found : (p.pass lint).diagnostics = []
    · rw [passes_of_clean hl found]
      exact h.format _ (h.report _ (h.record _ linted))
    have reported := h.report ⟨p.pass lint, none⟩ linted
    cases left with
    | zero =>
      rw [passes_zero_of_found hl found]
      exact h.record _ reported
    | succ left =>
      have mended : P (c.mend plan p (p.pass lint) _).2 := h.mend p (p.pass lint) reported
      rcases hm : c.mend plan p (p.pass lint) (c.report ⟨p.pass lint, none⟩ s₁) with
        ⟨failure | q, s₂⟩ <;> rw [hm] at mended
      · rw [passes_succ_of_unmended hl found hm]
        exact mended
      · rw [passes_succ_of_mended hl found hm]
        exact ih left (Nat.lt_succ_self left) q mended

theorem Preserves.run (h : c.Preserves P) (plan : LoopPlan) (hs : P s) : P (c.run plan s).2 := by
  have read := h.read hs
  unfold Collaborators.run
  rcases hr : c.read s with ⟨e | text, s₁⟩ <;> rw [hr] at read
  · exact read
  · exact h.passes _ _ read

end Preserves

/-- Induction on the calls of a run. -/
theorem history_induction {P : σ → List (Moment σ ε) → Prop} (start : P s [])
    (next : ∀ {s ms e t}, P s ms → Made c s e t → P t (ms ++ [⟨s, e⟩])) (plan : LoopPlan) :
    P (c.run plan s).2 (c.history plan s) := by
  have preserves : c.chronicled.Preserves fun s => P s.1 s.2.reverse := by
    have carried {s t : σ} {old : List (Moment σ ε)} {e : Event ε} (h : P s old.reverse)
        (made : Made c s e t) : P t (⟨s, e⟩ :: old).reverse := by
      rw [List.reverse_cons]
      exact next h made
    exact {
      read := fun h => carried h .read
      write := fun text _ h => carried h (.write text)
      lint := fun q _ h => carried h (.lint q)
      explain := fun code q _ h => carried h (.explain code q)
      format := fun q _ h => carried h (.format q)
      repair := fun r _ h => carried h (.repair r)
      report := fun cycle _ h => carried h (.report cycle)
      record := fun cycle _ h => carried h (.record cycle) }
  have final := preserves.run plan (s := (s, [])) start
  have same := c.shows_chronicled.run_eq plan (s, [])
  rwa [← history, show (c.chronicled.run plan (s, [])).2.1 = (c.run plan s).2 by rw [same]; rfl]
    at final

theorem made_of_mem_history {m : Moment σ ε} (mem : m ∈ c.history plan s) :
    ∃ t, Made c m.before m.event t := by
  refine history_induction (P := fun _ ms => ∀ m ∈ ms, ∃ t, Made c m.before m.event t)
    nofun ?_ plan m mem
  intro s ms e t ih made m mem
  rcases List.mem_append.mp mem with old | new
  · exact ih m old
  · obtain rfl := List.mem_singleton.mp new
    exact ⟨t, made⟩

end LintRepair.Collaborators
