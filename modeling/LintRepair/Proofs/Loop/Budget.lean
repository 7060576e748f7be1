import LintRepair.Proofs.Loop.Order

/-!
A larger budget changes nothing before the smaller one is spent. Two runs with the same
collaborators make the same calls as long as both may still repair; the budget is looked at only
when a pass found something, behind its report.
-/
namespace LintRepair.Collaborators
variable {σ ε : Type} {c : Collaborators σ ε} {plan plan' : LoopPlan} {p : Progress}
variable {lint : LintOutput} {s s₁ : σ} {left : Nat}

theorem converge_congr (same : plan'.request = plan.request) (pass : Pass) :
    c.converge plan' p pass s = c.converge plan p pass s := by
  unfold converge
  rw [same]

theorem mend_congr (same : plan'.request = plan.request) (pass : Pass) :
    c.mend plan' p pass s = c.mend plan p pass s := by
  unfold mend
  rw [same]

/-- The passes of a loop with a spent budget and of one that may still repair, from a pass that
found something. -/
inductive Parts (c : Collaborators σ ε) (plan plan' : LoopPlan) (extra : Nat) :
    Except (LoopError ε) LoopOutcome × σ → Except (LoopError ε) LoopOutcome × σ → Prop where
  | found {p : Progress} {lint : LintOutput} {s s₁ : σ}
      (linted : c.lint plan.request s = (.ok lint, s₁)) (found : (p.pass lint).diagnostics ≠ []) :
      Parts c plan plan' extra (c.passes plan 0 p s) (c.passes plan' (extra + 1) p s)

/-- Passes that may make more repairs go the same way, or come to where the others have spent their
budget. -/
theorem passes_or_parts (plan plan' : LoopPlan) (same : plan'.request = plan.request)
    (c : Collaborators σ ε) (left extra : Nat) (p : Progress) (s : σ) :
    (c.passes plan' (left + extra + 1) p s = c.passes plan left p s ∧
        ∀ k m remaining, (c.passes plan left p s).1 ≠ .ok ⟨k, .exceeded m remaining⟩) ∨
      Parts c plan plan' extra (c.passes plan left p s) (c.passes plan' (left + extra + 1) p s) := by
  induction left using Nat.strongRecOn generalizing p s with
  | ind left ih =>
    rcases linted : c.lint plan.request s with ⟨e | lint, s₁⟩
    · left
      rw [passes_of_lint_error linted, passes_of_lint_error (same ▸ linted)]
      exact ⟨rfl, fun _ _ _ h => by cases h⟩
    by_cases found : (p.pass lint).diagnostics = []
    · left
      rw [passes_of_clean linted found, passes_of_clean (same ▸ linted) found, converge_congr same]
      exact ⟨rfl, fun k m remaining h => by simp [converge] at h⟩
    cases left with
    | zero =>
      rw [Nat.zero_add]
      exact .inr (.found linted found)
    | succ left =>
      rw [show left + 1 + extra + 1 = (left + extra + 1) + 1 by omega]
      rcases mended : c.mend plan p (p.pass lint) (c.report ⟨p.pass lint, none⟩ s₁) with ⟨f | q, t⟩
      · left
        rw [passes_succ_of_unmended linted found mended,
          passes_succ_of_unmended (same ▸ linted) found ((mend_congr same _).trans mended)]
        exact ⟨rfl, fun _ _ _ h => by cases h⟩
      · rw [passes_succ_of_mended linted found mended,
          passes_succ_of_mended (same ▸ linted) found ((mend_congr same _).trans mended)]
        exact ih left (Nat.lt_succ_self left) q t

theorem run_or_parts {q : CommandRequest} {m n : UInt32} (less : m < n) (c : Collaborators σ ε)
    (s : σ) :
    (c.run ⟨q, n⟩ s = c.run ⟨q, m⟩ s ∧
        ∀ k m' remaining, (c.run ⟨q, m⟩ s).1 ≠ .ok ⟨k, .exceeded m' remaining⟩) ∨
      ∃ extra, Parts c ⟨q, m⟩ ⟨q, n⟩ extra (c.run ⟨q, m⟩ s) (c.run ⟨q, n⟩ s) := by
  have more : n.toNat = m.toNat + (n.toNat - m.toNat - 1) + 1 := by
    have := UInt32.lt_iff_toNat_lt.mp less
    omega
  unfold run
  rcases c.read s with ⟨e | text, t⟩
  · exact .inl ⟨rfl, nofun⟩
  · have parts := passes_or_parts ⟨q, m⟩ ⟨q, n⟩ rfl c m.toNat
      (n.toNat - m.toNat - 1) (.start text) t
    rw [← more] at parts
    exact parts.imp_right fun h => ⟨_, h⟩

theorem Inquiry.exists_repair {pass : Pass} {ms later : List (Moment σ ε)}
    {known : List Explanation} {lookups : Lookups} {t : σ} {m : Moment σ ε}
    (inquiry : Inquiry c plan p s pass ms known lookups t)
    (linted : c.lint plan.request s = (.ok lint, s₁)) (repairs : m.event.isRepair = true) :
    ∃ more, exchanged (ms ++ m :: later) =
        .lint plan.request (.ok lint) :: .report ⟨p.pass lint, none⟩ :: more ∧
      ∃ e ∈ more, e.isRepair = true := by
  cases inquiry with
  | found linted' =>
    rw [linted] at linted'
    cases linted'
    refine ⟨_, rfl, m.event, List.mem_filter.mpr ⟨by simp, ?_⟩, repairs⟩
    obtain ⟨t, event⟩ := m
    cases event <;> first | rfl | cases repairs

/-- A pass that found something and may be repaired comes to a repair request. -/
theorem exists_repair_of_found (plan : LoopPlan) (linted : c.lint plan.request s = (.ok lint, s₁))
    (found : (p.pass lint).diagnostics ≠ []) (left : Nat) :
    ∃ more, exchanged (c.calls plan (left + 1) p s) =
        .lint plan.request (.ok lint) :: .report ⟨p.pass lint, none⟩ :: more ∧
      ∃ e ∈ more, e.isRepair = true := by
  rcases ending_or_round_of_found linted found left with ending | ⟨ms, q, t, round, -, calls⟩
  · generalize c.calls plan (left + 1) p s = ends at ending ⊢
    generalize (c.passes plan (left + 1) p s).1 = answer at ending
    generalize (c.passes plan (left + 1) p s).2 = u at ending
    cases ending with
    | unrepaired _ inquiry unrepaired => exact inquiry.exists_repair linted rfl
    | unwritten _ inquiry repaired unwritten => exact inquiry.exists_repair linted rfl
    | clean linted' clean =>
      rw [linted] at linted'
      cases linted'
      exact absurd clean found
    | unlinted linted' => simp [linted] at linted'
    | restored linted' => simp [linted] at linted'
    | unrestored linted' => simp [linted] at linted'
  · cases round with
    | mended inquiry repaired written =>
      rw [calls, List.append_assoc]
      exact inquiry.exists_repair linted rfl

theorem exchanged_calls_of_spent (plan : LoopPlan) (linted : c.lint plan.request s = (.ok lint, s₁))
    (found : (p.pass lint).diagnostics ≠ []) :
    exchanged (c.calls plan 0 p s) =
      [.lint plan.request (.ok lint), .report ⟨p.pass lint, none⟩] := by
  rw [calls, passes_zero_of_found (chronicled_lint linted []) found]
  rfl

/-- A run that spent its budget has asked for as many repairs. -/
theorem repairs_of_exceeded {k m : UInt32} {remaining : Nat}
    (h : (c.run plan s).1 = .ok ⟨k, .exceeded m remaining⟩) :
    (c.events plan s).countP Event.isRepair = plan.maxIterations.toNat := by
  rw [events_eq_map_history]
  revert h
  refine run_cases c plan s ?_ ?_
  · exact nofun
  · intro text n q s₁ t ms ends answer u read few rounds ending h
    obtain ⟨spent, -, -, ds, -, -, tally⟩ := ending.of_exceeded h
    obtain ⟨fs, whole, -⟩ := rounds.tally_ending text tally
    rw [List.map_cons, whole.repairs]
    omega

/-- The repair requests of a run with their answers, in their order. -/
def repairs (c : Collaborators σ ε) (plan : LoopPlan) (s : σ) : List (Event ε) :=
  (c.exchanges plan s).filter Event.isRepair

theorem length_repairs (c : Collaborators σ ε) (plan : LoopPlan) (s : σ) :
    (c.repairs plan s).length = (c.events plan s).countP Event.isRepair := by
  rw [repairs, exchanges, List.filter_filter, List.countP_eq_length_filter]
  congr 2
  funext e
  cases e <;> rfl

/-- The exchanges of a run are what the chronicled run notes. -/
theorem exchanges_of_chronicled {answer : Except (LoopError ε) LoopOutcome} {t : σ}
    {ms : List (Moment σ ε)} (h : c.chronicled.run plan (s, []) = (answer, t, ms)) :
    c.exchanges plan s = exchanged ms.reverse ∧ c.run plan s = (answer, t) := by
  have shown := c.shows_chronicled.run_eq plan (s, [])
  rw [h] at shown
  rw [exchanges_eq, history, h]
  exact ⟨rfl, shown⟩

/-- Where a run has spent its budget, one with a larger budget goes on to another repair request. -/
theorem goes_on_of_parts {q : CommandRequest} {m n : UInt32} {extra : Nat}
    (parts : Parts c.chronicled ⟨q, m⟩ ⟨q, n⟩ extra (c.chronicled.run ⟨q, m⟩ (s, []))
      (c.chronicled.run ⟨q, n⟩ (s, []))) :
    (∃ k remaining, (c.run ⟨q, m⟩ s).1 = .ok ⟨k, .exceeded m remaining⟩) ∧
      ∃ more, c.exchanges ⟨q, n⟩ s = c.exchanges ⟨q, m⟩ s ++ more ∧
        ∃ e ∈ more, e.isRepair = true := by
  generalize spent : c.chronicled.run ⟨q, m⟩ (s, []) = x at parts
  generalize further : c.chronicled.run ⟨q, n⟩ (s, []) = y at parts
  cases parts with
  | @found p lint before after linted' found =>
    obtain ⟨t, old⟩ := before
    have linted : c.lint (⟨q, m⟩ : LoopPlan).request t = (.ok lint, after.1) := by
      have shown := c.shows_chronicled.lint q (t, old)
      rwa [linted'] at shown
    rw [chronicled_passes] at spent further
    obtain ⟨calls, run⟩ := exchanges_of_chronicled spent
    obtain ⟨calls', -⟩ := exchanges_of_chronicled further
    constructor
    · rw [run, passes_zero_of_found linted found]
      exact ⟨_, _, rfl⟩
    · obtain ⟨more, asks, repairs⟩ := exists_repair_of_found ⟨q, n⟩ linted found extra
      refine ⟨more, ?_, repairs⟩
      rw [calls, calls']
      simp [exchanged_append, asks, exchanged_calls_of_spent ⟨q, m⟩ linted found]

/-- Of two runs with the same collaborators, the calls and reports of the one with the smaller budget
are the first ones of the other. They are all of them, and both runs end alike, if the smaller
budget was not spent. If it was, it went into the same repairs as at first in the other run, which
asks for at least one more. -/
theorem run_budget {m n : UInt32} (less : m < n) (q : CommandRequest) (c : Collaborators σ ε)
    (s : σ) :
    c.exchanges ⟨q, m⟩ s <+: c.exchanges ⟨q, n⟩ s ∧
      ((∀ k m' remaining, (c.run ⟨q, m⟩ s).1 ≠ .ok ⟨k, .exceeded m' remaining⟩) →
        c.exchanges ⟨q, n⟩ s = c.exchanges ⟨q, m⟩ s ∧ c.run ⟨q, n⟩ s = c.run ⟨q, m⟩ s) ∧
      (∀ k m' remaining, (c.run ⟨q, m⟩ s).1 = .ok ⟨k, .exceeded m' remaining⟩ →
        (c.repairs ⟨q, m⟩ s).length = m.toNat ∧
        (c.repairs ⟨q, n⟩ s).take m.toNat = c.repairs ⟨q, m⟩ s ∧
        m.toNat < (c.repairs ⟨q, n⟩ s).length) := by
  rcases run_or_parts less c.chronicled (s, []) with ⟨same, unspent⟩ | ⟨extra, parts⟩
  · generalize ran : c.chronicled.run ⟨q, m⟩ (s, []) = x at same unspent
    obtain ⟨calls, run⟩ := exchanges_of_chronicled ran
    obtain ⟨calls', run'⟩ := exchanges_of_chronicled same
    have same_calls : c.exchanges ⟨q, n⟩ s = c.exchanges ⟨q, m⟩ s := calls'.trans calls.symm
    refine ⟨same_calls ▸ List.prefix_rfl, fun _ => ⟨same_calls, run'.trans run.symm⟩, ?_⟩
    intro k m' remaining spent
    rw [run] at spent
    exact absurd spent (unspent k m' remaining)
  · obtain ⟨⟨k₀, remaining₀, spent⟩, more, calls, e, he, repair⟩ := goes_on_of_parts parts
    refine ⟨calls ▸ List.prefix_append _ _, fun unspent => absurd spent (unspent _ _ _), ?_⟩
    intro k m' remaining exceeded
    have first : (c.repairs ⟨q, m⟩ s).length = m.toNat :=
      (length_repairs c ⟨q, m⟩ s).trans (repairs_of_exceeded exceeded)
    have next : c.repairs ⟨q, n⟩ s = c.repairs ⟨q, m⟩ s ++ more.filter Event.isRepair := by
      rw [repairs, calls, List.filter_append, ← Collaborators.repairs]
    have asked : 0 < (more.filter Event.isRepair).length :=
      List.length_pos_of_mem (List.mem_filter.mpr ⟨he, repair⟩)
    refine ⟨first, ?_, ?_⟩
    · rw [next, List.take_left' first]
    · rw [next, List.length_append, first]
      omega

/-- A loop that never comes clean asks for the same first repair with a budget of one and of two. -/
theorem run_budget_stubborn :
    let c := stubborn.collaborators
    let s := stubborn.stage {}
    let q : CommandRequest := ⟨⟨"."⟩, 5000, 10000⟩
    (1 : UInt32) < 2 ∧ c.exchanges ⟨q, 1⟩ s <+: c.exchanges ⟨q, 2⟩ s ∧
      (c.repairs ⟨q, 1⟩ s).length = 1 ∧ (c.repairs ⟨q, 2⟩ s).take 1 = c.repairs ⟨q, 1⟩ s ∧
      1 < (c.repairs ⟨q, 2⟩ s).length := by
  intro c s q
  have less : (1 : UInt32) < 2 := by decide
  have exceeded : (c.run ⟨q, 1⟩ s).1 = .ok ⟨1, .exceeded 1 1⟩ := by decide +kernel
  obtain ⟨first, -, spent⟩ := run_budget less q c s
  exact ⟨less, first, spent 1 1 1 exceeded⟩

end LintRepair.Collaborators
