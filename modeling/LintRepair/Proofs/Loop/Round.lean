import LintRepair.Proofs.Loop.History

/-!
All that a run can do, with the calls it makes: full rounds (lint, tell, explain, repair, write,
keep, tell) and then one of seven endings. Every run is made so; later statements about runs
are inductions on the rounds and case splits on the ending.
-/
namespace LintRepair.Collaborators
variable {σ ε : Type}

/-- The explanation lookups for some diagnostics, in their order. -/
def asked (c : Collaborators σ ε) (q : CommandRequest) (known : Lookups) (ds : List Diagnostic)
    (s : σ) : List (Moment σ ε) :=
  (c.chronicled.explanations q known ds (s, [])).2.2.2.reverse

/-- The calls of the passes of a loop, in their order. -/
def calls (c : Collaborators σ ε) (plan : LoopPlan) (left : Nat) (p : Progress) (s : σ) :
    List (Moment σ ε) :=
  (c.chronicled.passes plan left p (s, [])).2.2.reverse

/-- A pass that found something, up to the repair request: lint, tell, explain. -/
inductive Inquiry (c : Collaborators σ ε) (plan : LoopPlan) (p : Progress) (s : σ) :
    Pass → List (Moment σ ε) → List Explanation → Lookups → σ → Prop where
  | found {lint : LintOutput} {s₁ s₂ : σ} {known : List Explanation} {lookups : Lookups}
      (linted : c.lint plan.request s = (.ok lint, s₁))
      (found : (p.pass lint).diagnostics ≠ [])
      (explained : c.explanations plan.request p.lookups (p.pass lint).diagnostics
        (c.report ⟨p.pass lint, none⟩ s₁) = (known, lookups, s₂)) :
      Inquiry c plan p s (p.pass lint)
        (⟨s, .lint plan.request (.ok lint)⟩ :: ⟨s₁, .report ⟨p.pass lint, none⟩⟩ ::
          c.asked plan.request p.lookups (p.pass lint).diagnostics
            (c.report ⟨p.pass lint, none⟩ s₁))
        known lookups s₂

/-- A pass that found something and was repaired. -/
inductive Round (c : Collaborators σ ε) (plan : LoopPlan) (p : Progress) (s : σ) :
    List (Moment σ ε) → Progress → σ → Prop where
  | mended {pass : Pass} {ms : List (Moment σ ε)} {known : List Explanation} {lookups : Lookups}
      {r : Repair} {s₂ s₃ s₄ : σ}
      (inquiry : Inquiry c plan p s pass ms known lookups s₂)
      (repaired : c.repair ⟨c.path, p.current.text, pass.diagnostics, known⟩ s₂ = (.ok r, s₃))
      (written : c.write r.source s₃ = (.ok (), s₄)) :
      Round c plan p s
        (ms ++ [⟨s₂, .repair ⟨c.path, p.current.text, pass.diagnostics, known⟩ (.ok r)⟩,
          ⟨s₃, .write r.source (.ok ())⟩, ⟨s₄, .record ⟨pass, some r⟩⟩,
          ⟨c.record ⟨pass, some r⟩ s₄, .report ⟨pass, some r⟩⟩])
        (p.repaired lookups r) (c.report ⟨pass, some r⟩ (c.record ⟨pass, some r⟩ s₄))

/-- So many rounds, one after the other. -/
inductive Rounds (c : Collaborators σ ε) (plan : LoopPlan) :
    Nat → Progress → σ → List (Moment σ ε) → Progress → σ → Prop where
  | refl (p : Progress) (s : σ) : Rounds c plan 0 p s [] p s
  | tail {n : Nat} {p q q' : Progress} {s t t' : σ} {ms new : List (Moment σ ε)}
      (before : Rounds c plan n p s ms q t) (last : Round c plan q t new q' t') :
      Rounds c plan (n + 1) p s (ms ++ new) q' t'

/-- A pass that is the last one, with the number of repairs that might still be made. -/
inductive Ending (c : Collaborators σ ε) (plan : LoopPlan) :
    Nat → Progress → σ → List (Moment σ ε) → Except (LoopError ε) LoopOutcome → σ → Prop where
  /-- The lint failed and no candidate was pending. -/
  | unlinted {left : Nat} {p : Progress} {s s₁ : σ} {e : ε}
      (linted : c.lint plan.request s = (.error e, s₁)) (settled : p.candidate = none) :
      Ending c plan left p s [⟨s, .lint plan.request (.error e)⟩] (.error (.lint e)) s₁
  /-- The lint failed and the version before the candidate was written back. -/
  | restored {left : Nat} {p : Progress} {v : Version} {s s₁ s₂ : σ} {e : ε}
      (linted : c.lint plan.request s = (.error e, s₁)) (pending : p.candidate = some v)
      (written : c.write p.committed.text s₁ = (.ok (), s₂)) :
      Ending c plan left p s
        [⟨s, .lint plan.request (.error e)⟩, ⟨s₁, .write p.committed.text (.ok ())⟩]
        (.error (.lint e)) s₂
  /-- The lint failed and the version before the candidate could not be written back. -/
  | unrestored {left : Nat} {p : Progress} {v : Version} {s s₁ s₂ : σ} {e f : ε}
      (linted : c.lint plan.request s = (.error e, s₁)) (pending : p.candidate = some v)
      (unwritten : c.write p.committed.text s₁ = (.error f, s₂)) :
      Ending c plan left p s
        [⟨s, .lint plan.request (.error e)⟩, ⟨s₁, .write p.committed.text (.error f)⟩]
        (.error (.restore f)) s₂
  | clean {left : Nat} {p : Progress} {lint : LintOutput} {s s₁ s₂ : σ} {a : Except ε Unit}
      (linted : c.lint plan.request s = (.ok lint, s₁)) (clean : (p.pass lint).diagnostics = [])
      (formatted : c.format plan.request
        (c.report ⟨p.pass lint, none⟩ (c.record ⟨p.pass lint, none⟩ s₁)) = (a, s₂)) :
      Ending c plan left p s
        [⟨s, .lint plan.request (.ok lint)⟩, ⟨s₁, .record ⟨p.pass lint, none⟩⟩,
          ⟨c.record ⟨p.pass lint, none⟩ s₁, .report ⟨p.pass lint, none⟩⟩,
          ⟨c.report ⟨p.pass lint, none⟩ (c.record ⟨p.pass lint, none⟩ s₁), .format a⟩]
        (.ok ⟨p.repairs, .converged (p.pass lint).iter⟩) s₂
  /-- Something was found and no repair is left. -/
  | spent {p : Progress} {lint : LintOutput} {s s₁ : σ}
      (linted : c.lint plan.request s = (.ok lint, s₁)) (found : (p.pass lint).diagnostics ≠ []) :
      Ending c plan 0 p s
        [⟨s, .lint plan.request (.ok lint)⟩, ⟨s₁, .report ⟨p.pass lint, none⟩⟩,
          ⟨c.report ⟨p.pass lint, none⟩ s₁, .record ⟨p.pass lint, none⟩⟩]
        (.ok ⟨p.repairs, .exceeded plan.maxIterations (p.pass lint).diagnostics.length⟩)
        (c.record ⟨p.pass lint, none⟩ (c.report ⟨p.pass lint, none⟩ s₁))
  | unrepaired (left : Nat) {p : Progress} {pass : Pass} {ms : List (Moment σ ε)}
      {known : List Explanation} {lookups : Lookups} {s s₂ s₃ : σ} {e : ε}
      (inquiry : Inquiry c plan p s pass ms known lookups s₂)
      (unrepaired : c.repair ⟨c.path, p.current.text, pass.diagnostics, known⟩ s₂ = (.error e, s₃)) :
      Ending c plan (left + 1) p s
        (ms ++ [⟨s₂, .repair ⟨c.path, p.current.text, pass.diagnostics, known⟩ (.error e)⟩])
        (.error (.repair e)) s₃
  | unwritten (left : Nat) {p : Progress} {pass : Pass} {ms : List (Moment σ ε)}
      {known : List Explanation} {lookups : Lookups} {r : Repair} {s s₂ s₃ s₄ : σ} {e : ε}
      (inquiry : Inquiry c plan p s pass ms known lookups s₂)
      (repaired : c.repair ⟨c.path, p.current.text, pass.diagnostics, known⟩ s₂ = (.ok r, s₃))
      (unwritten : c.write r.source s₃ = (.error e, s₄)) :
      Ending c plan (left + 1) p s
        (ms ++ [⟨s₂, .repair ⟨c.path, p.current.text, pass.diagnostics, known⟩ (.ok r)⟩,
          ⟨s₃, .write r.source (.error e)⟩])
        (.error (.write e)) s₄

variable {c : Collaborators σ ε} {plan : LoopPlan} {p q : Progress} {left : Nat}
variable {s s₁ s₂ s₃ t : σ} {lint : LintOutput}

theorem chronicled_explanations {q : CommandRequest} {known lookups : Lookups}
    {ds : List Diagnostic} {texts : List Explanation}
    (h : c.explanations q known ds s = (texts, lookups, t)) (old : List (Moment σ ε)) :
    c.chronicled.explanations q known ds (s, old) =
      (texts, lookups, t, (c.asked q known ds s).reverse ++ old) := by
  have hb := (c.shows_behind old).explanationsAfter_eq q [] known ds (s, [])
  have hc := c.shows_chronicled.explanationsAfter_eq q [] known ds (s, [])
  rcases hx : c.chronicled.explanationsAfter q [] known ds (s, []) with ⟨texts', lookups', t', ms⟩
  have ha : c.asked q known ds s = ms.reverse := by rw [asked, explanations, hx]
  rw [explanations, hc, hx] at h
  simp only [Prod.map, id, Prod.mk.injEq] at h
  obtain ⟨rfl, rfl, rfl⟩ := h
  rw [explanations, ha, List.reverse_reverse]
  rw [hx] at hb
  exact hb

theorem event_of_mem_asked {q : CommandRequest} {known : Lookups} {ds : List Diagnostic}
    {m : Moment σ ε} (hm : m ∈ c.asked q known ds s) : ∃ code a, m.event = .explain code a := by
  have h : ∀ m ∈ (c.chronicled.explanations q known ds (s, [])).2.2.2,
      ∃ code a, m.event = .explain code a := by
    refine explanations_preserves (P := fun s : σ × List (Moment σ ε) =>
      ∀ m ∈ s.2, ∃ code a, m.event = .explain code a) ?_ q known ds (by simp)
    intro code q s old m hm
    rcases List.mem_cons.mp hm with rfl | hm
    · exact ⟨code, _, rfl⟩
    · exact old m hm
  exact h m (List.mem_reverse.mp hm)

/-- What was noted before some passes does not matter to them. -/
theorem chronicled_passes (c : Collaborators σ ε) (plan : LoopPlan) (left : Nat) (p : Progress)
    (s : σ) (old : List (Moment σ ε)) :
    c.chronicled.passes plan left p (s, old) =
      ((c.passes plan left p s).1, (c.passes plan left p s).2,
        (c.calls plan left p s).reverse ++ old) := by
  have hb := (c.shows_behind old).passes_eq plan left p (s, [])
  have hc := c.shows_chronicled.passes_eq plan left p (s, [])
  simp only [List.nil_append] at hb
  rw [hb, hc, calls, List.reverse_reverse]
  rfl

theorem ending_of_lint_error {e : ε} (linted : c.lint plan.request s = (.error e, s₁)) :
    Ending c plan left p s (c.calls plan left p s) (c.passes plan left p s).1
      (c.passes plan left p s).2 := by
  rw [calls, passes_of_lint_error linted, passes_of_lint_error (chronicled_lint linted [])]
  cases pending : p.candidate with
  | none =>
    rw [abandon_of_none pending, abandon_of_none pending]
    exact .unlinted linted pending
  | some v =>
    rcases written : c.write p.committed.text s₁ with ⟨f | _, s₂⟩
    · rw [abandon_of_unrestored pending written,
        abandon_of_unrestored pending (chronicled_write written _)]
      exact .unrestored linted pending written
    · rw [abandon_of_restored pending written,
        abandon_of_restored pending (chronicled_write written _)]
      exact .restored linted pending written

theorem ending_of_clean (linted : c.lint plan.request s = (.ok lint, s₁))
    (clean : (p.pass lint).diagnostics = []) :
    Ending c plan left p s (c.calls plan left p s) (c.passes plan left p s).1
      (c.passes plan left p s).2 := by
  rw [calls, passes_of_clean linted clean, passes_of_clean (chronicled_lint linted []) clean]
  exact .clean linted clean rfl

theorem ending_of_spent (linted : c.lint plan.request s = (.ok lint, s₁))
    (found : (p.pass lint).diagnostics ≠ []) :
    Ending c plan 0 p s (c.calls plan 0 p s) (c.passes plan 0 p s).1 (c.passes plan 0 p s).2 := by
  rw [calls, passes_zero_of_found linted found,
    passes_zero_of_found (chronicled_lint linted []) found]
  exact .spent linted found

/-- A round is what the passes of a loop begin with where it can be made. -/
theorem Round.passes_eq {ms : List (Moment σ ε)} (round : Round c plan p s ms q t) (left : Nat) :
    c.passes plan (left + 1) p s = c.passes plan left q t ∧
      c.calls plan (left + 1) p s = ms ++ c.calls plan left q t := by
  cases round with
  | mended inquiry repaired written =>
    cases inquiry with
    | @found lint s₁ s₂ known lookups linted found explained =>
      have explained' := chronicled_explanations explained
        (⟨s₁, .report ⟨p.pass lint, none⟩⟩ :: [⟨s, .lint plan.request (.ok lint)⟩])
      constructor
      · exact passes_succ_of_mended linted found (mend_of_written explained repaired written)
      · rw [calls, passes_succ_of_mended (chronicled_lint linted []) found (mend_of_written explained'
          (chronicled_repair repaired _) (chronicled_write written _)),
          chronicled_record, chronicled_report, chronicled_passes]
        simp

theorem exists_round_of_mended (linted : c.lint plan.request s = (.ok lint, s₁))
    (found : (p.pass lint).diagnostics ≠ [])
    (mended : c.mend plan p (p.pass lint) (c.report ⟨p.pass lint, none⟩ s₁) = (.ok q, t)) :
    ∃ ms, Round c plan p s ms q t := by
  obtain ⟨known, lookups, s₂, explained⟩ : ∃ known lookups s₂,
      c.explanations plan.request p.lookups (p.pass lint).diagnostics
        (c.report ⟨p.pass lint, none⟩ s₁) = (known, lookups, s₂) := ⟨_, _, _, rfl⟩
  rcases repaired : c.repair ⟨c.path, p.current.text, (p.pass lint).diagnostics, known⟩ s₂ with
    ⟨e | r, s₃⟩
  · rw [mend_of_unrepaired explained repaired] at mended
    cases mended
  rcases written : c.write r.source s₃ with ⟨e | ⟨⟩, s₄⟩
  · rw [mend_of_unwritten explained repaired written] at mended
    cases mended
  · rw [mend_of_written explained repaired written] at mended
    cases mended
    exact ⟨_, .mended (.found linted found explained) repaired written⟩

/-- A pass that found something and may be repaired fails at the repair or at the write, or makes a
round. -/
theorem ending_or_round_of_found (linted : c.lint plan.request s = (.ok lint, s₁))
    (found : (p.pass lint).diagnostics ≠ []) (left : Nat) :
    Ending c plan (left + 1) p s (c.calls plan (left + 1) p s) (c.passes plan (left + 1) p s).1
        (c.passes plan (left + 1) p s).2 ∨
      ∃ ms q t, Round c plan p s ms q t ∧
        c.passes plan (left + 1) p s = c.passes plan left q t ∧
        c.calls plan (left + 1) p s = ms ++ c.calls plan left q t := by
  obtain ⟨known, lookups, s₂, explained⟩ : ∃ known lookups s₂,
      c.explanations plan.request p.lookups (p.pass lint).diagnostics
        (c.report ⟨p.pass lint, none⟩ s₁) = (known, lookups, s₂) := ⟨_, _, _, rfl⟩
  have inquiry := Inquiry.found linted found explained
  have linted' := chronicled_lint linted []
  have explained' := chronicled_explanations explained
    (⟨s₁, .report ⟨p.pass lint, none⟩⟩ :: [⟨s, .lint plan.request (.ok lint)⟩])
  rcases repaired : c.repair ⟨c.path, p.current.text, (p.pass lint).diagnostics, known⟩ s₂ with
    ⟨e | r, s₃⟩
  · left
    rw [calls, passes_succ_of_unmended linted found (mend_of_unrepaired explained repaired),
      passes_succ_of_unmended linted' found
        (mend_of_unrepaired explained' (chronicled_repair repaired _))]
    simpa using Ending.unrepaired left inquiry repaired
  rcases written : c.write r.source s₃ with ⟨e | ⟨⟩, s₄⟩
  · left
    rw [calls, passes_succ_of_unmended linted found (mend_of_unwritten explained repaired written),
      passes_succ_of_unmended linted' found (mend_of_unwritten explained'
        (chronicled_repair repaired _) (chronicled_write written _))]
    simpa using Ending.unwritten left inquiry repaired written
  · right
    have round := Round.mended inquiry repaired written
    exact ⟨_, _, _, round, round.passes_eq left⟩

theorem Rounds.head {n : Nat} {p q q' : Progress} {s t t' : σ} {ms new : List (Moment σ ε)}
    (first : Round c plan p s ms q t) (after : Rounds c plan n q t new q' t') :
    Rounds c plan (n + 1) p s (ms ++ new) q' t' := by
  induction after with
  | refl q t => simpa using Rounds.tail (.refl p s) first
  | tail before last ih => simpa using Rounds.tail (ih first) last

/-- The passes of a loop are rounds, at most as many as repairs are allowed, and an ending. -/
theorem passes_course (c : Collaborators σ ε) (plan : LoopPlan) (left : Nat) (p : Progress)
    (s : σ) :
    ∃ n q t ms ends, n ≤ left ∧ Rounds c plan n p s ms q t ∧
      Ending c plan (left - n) q t ends (c.passes plan left p s).1 (c.passes plan left p s).2 ∧
      c.calls plan left p s = ms ++ ends := by
  have last {left : Nat} {p : Progress} {s : σ}
      (h : Ending c plan left p s (c.calls plan left p s) (c.passes plan left p s).1
        (c.passes plan left p s).2) :
      ∃ n q t ms ends, n ≤ left ∧ Rounds c plan n p s ms q t ∧
        Ending c plan (left - n) q t ends (c.passes plan left p s).1 (c.passes plan left p s).2 ∧
        c.calls plan left p s = ms ++ ends :=
    ⟨0, p, s, [], _, Nat.zero_le _, .refl p s, h, rfl⟩
  induction left using Nat.strongRecOn generalizing p s with
  | ind left ih =>
    rcases linted : c.lint plan.request s with ⟨e | lint, s₁⟩
    · exact last (ending_of_lint_error linted)
    by_cases found : (p.pass lint).diagnostics = []
    · exact last (ending_of_clean linted found)
    cases left with
    | zero => exact last (ending_of_spent linted found)
    | succ left =>
      rcases ending_or_round_of_found linted found left with h | ⟨ms, q, t, round, hp, hc⟩
      · exact last h
      obtain ⟨n, q', t', new, ends, few, rounds, ending, calls⟩ := ih left (Nat.lt_succ_self _) q t
      refine ⟨n + 1, q', t', ms ++ new, ends, Nat.succ_le_succ few, rounds.head round, ?_, ?_⟩
      · rw [hp, Nat.add_sub_add_right]
        exact ending
      · rw [hc, calls, List.append_assoc]

/-- A run is a failed read, or a read, at most as many rounds as repairs are allowed, and an ending:
what holds of these calls, their answer and the state behind them holds of the run. -/
@[elab_as_elim]
theorem run_cases {motive : List (Moment σ ε) → Except (LoopError ε) LoopOutcome → σ → Prop}
    (c : Collaborators σ ε) (plan : LoopPlan) (s : σ)
    (unread : ∀ e t, c.read s = (.error e, t) →
      motive [⟨s, .read (.error e)⟩] (.error (.read e)) t)
    (ended : ∀ text n q s₁ t ms ends answer u, c.read s = (.ok text, s₁) →
      n ≤ plan.maxIterations.toNat → Rounds c plan n (.start text) s₁ ms q t →
      Ending c plan (plan.maxIterations.toNat - n) q t ends answer u →
      motive (⟨s, .read (.ok text)⟩ :: (ms ++ ends)) answer u) :
    motive (c.history plan s) (c.run plan s).1 (c.run plan s).2 := by
  rcases read : c.read s with ⟨e | text, s₁⟩
  · rw [history, run, run, chronicled_read read, read]
    exact unread _ _ read
  · rw [history, run, run, chronicled_read read, read]
    simp only [chronicled_passes]
    obtain ⟨n, q, t, ms, ends, few, rounds, ending, calls⟩ :=
      passes_course c plan plan.maxIterations.toNat (.start text) s₁
    rw [List.reverse_append, List.reverse_reverse, List.reverse_singleton, List.singleton_append,
      calls]
    exact ended _ _ _ _ _ _ _ _ _ read few rounds ending

end LintRepair.Collaborators
