import LintRepair.Project.Plan
import LintRepair.Proofs.Loop.Handoff
import Mathlib.Control.Monad.Basic

/-!
The counters of a run. Between two passes they count the repairs made so far, and no budget lets
them leave their words. The number of the pass that is running is one ahead of them: a budget that
fills its word allows one pass more than can be numbered, and that pass is told of as number zero.
-/
namespace LintRepair

/-- The counters between two passes, after `n` repairs. The committed version is the one that was
linted last, so it lags one repair behind, and the last repair is a candidate. -/
structure Progress.Counts (p : Progress) (n : Nat) : Prop where
  iter : p.iter.toNat = n
  repairs : p.repairs.toNat = n
  committed : p.committed.number.toNat = n - 1
  candidate : p.candidate.map (·.number.toNat) = if n = 0 then none else some n

/-- The pass says that it is the `n`-th, on the version that `n - 1` repairs have made. -/
structure Pass.Numbered (pass : Pass) (n : Nat) : Prop where
  iter : pass.iter.toNat = n
  version : pass.version.toNat + 1 = n

section Progress
variable {p : Progress} {n : Nat}

theorem Progress.counts_start (text : String) : (Progress.start text).Counts 0 where
  iter := rfl
  repairs := rfl
  committed := rfl
  candidate := rfl

theorem Progress.Counts.current (counts : p.Counts n) : p.current.number.toNat = n := by
  have candidate := counts.candidate
  unfold Progress.current
  cases pending : p.candidate with
  | none =>
    rw [pending] at candidate
    split at candidate
    · rw [Option.getD_none, counts.committed]
      omega
    · cases candidate
  | some v =>
    rw [pending] at candidate
    split at candidate
    · cases candidate
    · exact Option.some.inj candidate

/-- The words count one repair more as long as they hold the number. -/
theorem Progress.Counts.repaired (counts : p.Counts n) (fits : n + 1 < UInt32.size)
    (lookups : Lookups) (r : Repair) : (p.repaired lookups r).Counts (n + 1) where
  iter := by
    rw [Progress.repaired, UInt32.toNat_add, counts.iter]
    exact Nat.mod_eq_of_lt fits
  repairs := by
    rw [Progress.repaired, UInt32.toNat_add, counts.repairs]
    exact Nat.mod_eq_of_lt fits
  committed := counts.current
  candidate := by
    have next : (p.current.number + 1).toNat = n + 1 := by
      rw [UInt32.toNat_add, counts.current]
      exact Nat.mod_eq_of_lt fits
    exact congrArg some next

/-- A pass has its number as a word, which may be too small for it, and the number of its version as
it is. -/
theorem Progress.Counts.pass (counts : p.Counts n) (lint : LintOutput) :
    (p.pass lint).iter = UInt32.ofNat (n + 1) ∧ (p.pass lint).version.toNat + 1 = n + 1 := by
  refine ⟨UInt32.toNat_inj.mp ?_, congrArg (· + 1) counts.current⟩
  show (p.iter + 1).toNat = _
  rw [UInt32.toNat_add, counts.iter, UInt32.toNat_ofNat']
  rfl

theorem Progress.Counts.numbered (counts : p.Counts n) (fits : n + 1 < UInt32.size)
    (lint : LintOutput) : (p.pass lint).Numbered (n + 1) where
  iter := by
    rw [(counts.pass lint).1, UInt32.toNat_ofNat']
    exact Nat.mod_eq_of_lt fits
  version := (counts.pass lint).2

end Progress

namespace Collaborators
variable {σ ε : Type}

/-- What a run knows between two passes, after `n` repairs. -/
inductive Reaches (c : Collaborators σ ε) (plan : LoopPlan) (s : σ) :
    Nat → Progress → σ → Prop where
  | start {text : String} {t : σ} (read : c.read s = (.ok text, t)) :
      Reaches c plan s 0 (.start text) t
  | next {n : Nat} {q q' : Progress} {t t₁ t' : σ} {lint : LintOutput}
      (before : Reaches c plan s n q t) (left : n < plan.maxIterations.toNat)
      (linted : c.lint plan.request t = (.ok lint, t₁)) (found : (q.pass lint).diagnostics ≠ [])
      (mended : c.mend plan q (q.pass lint) (c.report ⟨q.pass lint, none⟩ t₁) = (.ok q', t')) :
      Reaches c plan s (n + 1) q' t'

/-- All that a run counts is true: what it knows between its passes, every pass it tells of or
keeps, and the numbers it ends with. The `n`-th pass is the one with the `n`-th lint, and before
that lint `n - 1` repairs were made. -/
structure CountsTruly (c : Collaborators σ ε) (plan : LoopPlan) (s : σ) : Prop where
  reached : ∀ {n q t}, c.Reaches plan s n q t → q.Counts n
  running : ∀ {n q t}, c.Reaches plan s n q t → ∀ lint, (q.pass lint).Numbered (n + 1)
  linted : ∀ {earlier later t q a}, c.history plan s = earlier ++ ⟨t, .lint q a⟩ :: later →
    (earlier.filterMap Moment.repair?).length = (lints earlier).length
  told : ∀ {earlier later t cycle}, c.history plan s = earlier ++ ⟨t, .report cycle⟩ :: later →
    cycle.pass.Numbered (lints earlier).length
  kept : ∀ {earlier later t cycle}, c.history plan s = earlier ++ ⟨t, .record cycle⟩ :: later →
    cycle.pass.Numbered (lints earlier).length
  converged : ∀ {k i}, (c.run plan s).1 = .ok ⟨k, .converged i⟩ →
    i.toNat = (lints (c.history plan s)).length ∧ k.toNat + 1 = (lints (c.history plan s)).length
  exceeded : ∀ {k m remaining}, (c.run plan s).1 = .ok ⟨k, .exceeded m remaining⟩ →
    k.toNat + 1 = (lints (c.history plan s)).length

/-- What the numbers in a call are, given the calls before it. -/
def Numbers (earlier : List (Moment σ ε)) (m : Moment σ ε) : Prop :=
  match m.event with
  | .lint _ _ => (earlier.filterMap Moment.repair?).length = (lints earlier).length
  | .report cycle | .record cycle =>
    cycle.pass.iter = UInt32.ofNat (lints earlier).length ∧
      cycle.pass.version.toNat + 1 = (lints earlier).length
  | _ => True

/-- How the counters and the numbers in the calls stand after `n` rounds. -/
structure Counted (n : Nat) (q : Progress) (ms : List (Moment σ ε)) : Prop where
  linted : (lints ms).length = n
  repaired : (ms.filterMap Moment.repair?).length = n
  counts : q.Counts n
  numbers : Throughout Numbers [] ms

variable {c : Collaborators σ ε} {plan : LoopPlan} {p q q' : Progress} {n left : Nat}
variable {s t t' u : σ} {ms new ends : List (Moment σ ε)} {lint : LintOutput} {text : String}

theorem numbers_asked (c : Collaborators σ ε) (q : CommandRequest) (known : Lookups)
    (ds : List Diagnostic) (s : σ) : Throughout Numbers ms (c.asked q known ds s) := by
  refine throughout_of_forall fun m hm earlier => ?_
  obtain ⟨code, a, he⟩ := event_of_mem_asked hm
  simp only [Numbers, he]

theorem Counted.start (s : σ) (text : String) :
    Counted 0 (.start text) [(⟨s, .read (.ok text)⟩ : Moment σ ε)] where
  linted := rfl
  repaired := rfl
  counts := Progress.counts_start text
  numbers := ⟨trivial, trivial⟩

/-- The calls up to a pass's own lint, and behind it calls that are no lints. -/
theorem Counted.lints_eq (counted : Counted n q ms) {m : Moment σ ε} (linted : lints new = [m]) :
    (lints (ms ++ new)).length = n + 1 := by
  rw [lints_append, List.length_append, counted.linted, linted]
  rfl

/-- A cycle of the pass that is running has the numbers of that pass. -/
theorem Counted.numbers_pass (counted : Counted n q ms) {earlier : List (Moment σ ε)}
    (running : (lints earlier).length = n + 1) (lint : LintOutput) :
    (q.pass lint).iter = UInt32.ofNat (lints earlier).length ∧
      (q.pass lint).version.toNat + 1 = (lints earlier).length := by
  rw [running]
  exact counted.counts.pass lint

theorem Counted.inquiry {pass : Pass} {known : List Explanation} {lookups : Lookups}
    {inquired : List (Moment σ ε)} (counted : Counted n q ms)
    (h : Inquiry c plan q t pass inquired known lookups u) :
    Throughout Numbers ms inquired := by
  cases h with
  | found linted found explained =>
    exact ⟨counted.repaired.trans counted.linted.symm,
      counted.numbers_pass (counted.lints_eq rfl) _, numbers_asked ..⟩

/-- A round counts one repair more, as long as the words hold its number. -/
theorem Counted.round (counted : Counted n q ms) (fits : n + 1 < UInt32.size)
    (round : Round c plan q t new q' t') : Counted (n + 1) q' (ms ++ new) := by
  cases round with
  | @mended pass inquired known lookups r s₂ s₃ s₄ inquiry repaired written =>
    obtain ⟨output, once, rfl⟩ := inquiry.lints_eq
    have running {quiet : List (Moment σ ε)} (h : lints quiet = []) :
        (lints (ms ++ inquired ++ quiet)).length = n + 1 := by
      rw [lints_append, h, List.append_nil]
      exact counted.lints_eq once
    exact {
      linted := by
        rw [← List.append_assoc]
        exact running rfl
      repaired := by
        rw [List.filterMap_append, List.filterMap_append, inquiry.repairs_eq, List.length_append,
          counted.repaired]
        rfl
      counts := counted.counts.repaired fits lookups r
      numbers := by
        rw [throughout_append, throughout_append]
        refine ⟨counted.numbers, counted.inquiry inquiry, trivial, trivial, ?_, ?_, trivial⟩
        · rw [List.append_assoc]
          exact counted.numbers_pass (running rfl) output
        · rw [List.append_assoc, List.append_assoc]
          exact counted.numbers_pass (running rfl) output }

theorem Counted.rounds {first : List (Moment σ ε)} (counted : Counted 0 p first)
    (rounds : Rounds c plan n p s ms q t) (fits : n < UInt32.size) :
    Counted n q (first ++ ms) := by
  induction rounds with
  | refl => rwa [List.append_nil]
  | tail before last ih =>
    rw [← List.append_assoc]
    exact (ih counted (Nat.lt_of_succ_lt fits)).round fits last

theorem Counted.ending {answer : Except (LoopError ε) LoopOutcome} (counted : Counted n q ms)
    (ending : Ending c plan left q t ends answer u) : Throughout Numbers ms ends := by
  have before : (ms.filterMap Moment.repair?).length = (lints ms).length :=
    counted.repaired.trans counted.linted.symm
  cases ending with
  | unlinted linted settled => exact ⟨before, trivial⟩
  | restored linted pending written => exact ⟨before, trivial, trivial⟩
  | unrestored linted pending unwritten => exact ⟨before, trivial, trivial⟩
  | @clean _ _ lint s s₁ s₂ a linted clean formatted =>
    refine ⟨before, counted.numbers_pass (counted.lints_eq rfl) lint, ?_, trivial, trivial⟩
    rw [List.append_assoc]
    exact counted.numbers_pass (counted.lints_eq rfl) lint
  | @spent _ lint s s₁ linted found =>
    refine ⟨before, counted.numbers_pass (counted.lints_eq rfl) lint, ?_, trivial⟩
    rw [List.append_assoc]
    exact counted.numbers_pass (counted.lints_eq rfl) lint
  | unrepaired _ inquiry unrepaired =>
    rw [throughout_append]
    exact ⟨counted.inquiry inquiry, trivial, trivial⟩
  | unwritten _ inquiry repaired unwritten =>
    rw [throughout_append]
    exact ⟨counted.inquiry inquiry, trivial, trivial, trivial⟩

theorem Ending.length_lints {answer : Except (LoopError ε) LoopOutcome}
    (ending : Ending c plan left q t ends answer u) : (LintRepair.lints ends).length = 1 := by
  have once := ending.lints
  rwa [List.countP_map, List.countP_eq_length_filter] at once

section Reaches

theorem Rounds.reaches (rounds : Rounds c plan n (.start text) s ms q t)
    (read : c.read u = (.ok text, s)) (few : n ≤ plan.maxIterations.toNat) :
    c.Reaches plan u n q t := by
  generalize hp : Progress.start text = p at rounds
  induction rounds with
  | refl p s =>
    subst hp
    exact .start read
  | tail before last ih =>
    have reached := ih read (Nat.le_of_succ_le few) hp
    cases last with
    | mended inquiry repaired written =>
      cases inquiry with
      | found linted found explained =>
        exact .next reached few linted found (mend_of_written explained repaired written)

/-- What a run knows between two passes is what rounds lead to, and the run goes on from there. -/
theorem Reaches.exists_rounds (reached : c.Reaches plan s n q t) :
    ∃ text s₁ ms, c.read s = (.ok text, s₁) ∧ n ≤ plan.maxIterations.toNat ∧
      Rounds c plan n (.start text) s₁ ms q t ∧
      c.run plan s = c.passes plan (plan.maxIterations.toNat - n) q t ∧
      c.history plan s =
        ⟨s, .read (.ok text)⟩ :: (ms ++ c.calls plan (plan.maxIterations.toNat - n) q t) := by
  induction reached with
  | @start text t read =>
    refine ⟨text, t, [], read, Nat.zero_le _, .refl _ _, ?_, ?_⟩
    · rw [run, read]
      rfl
    · rw [history, run, chronicled_read read]
      simp [chronicled_passes]
  | @next n q q' t t₁ t' lint before left linted found mended ih =>
    obtain ⟨text, s₁, ms, read, few, rounds, onward, calls⟩ := ih
    obtain ⟨new, round⟩ := exists_round_of_mended linted found mended
    have next := round.passes_eq (plan.maxIterations.toNat - (n + 1))
    rw [show plan.maxIterations.toNat - (n + 1) + 1 = plan.maxIterations.toNat - n by omega] at next
    refine ⟨text, s₁, ms ++ new, read, left, .tail rounds round, onward.trans next.1, ?_⟩
    rw [calls, next.2, List.append_assoc]

theorem Reaches.counts (reached : c.Reaches plan s n q t) : q.Counts n := by
  obtain ⟨text, s₁, ms, read, few, rounds, -, -⟩ := reached.exists_rounds
  have fits : n < UInt32.size := Nat.lt_of_le_of_lt few plan.maxIterations.toNat_lt
  exact ((Counted.start s text).rounds rounds fits).counts

/-- Behind every state between two passes a run has another lint. -/
theorem Reaches.lt_lints (reached : c.Reaches plan s n q t) :
    n < (lints (c.history plan s)).length := by
  obtain ⟨text, s₁, ms, read, few, rounds, -, calls⟩ := reached.exists_rounds
  have fits : n < UInt32.size := Nat.lt_of_le_of_lt few plan.maxIterations.toNat_lt
  have counted := (Counted.start s text).rounds rounds fits
  obtain ⟨n', q', t', ms', ends, -, -, ending, rest⟩ :=
    passes_course c plan (plan.maxIterations.toNat - n) q t
  have another := ending.length_lints
  rw [calls, ← List.cons_append, ← List.singleton_append, lints_append, List.length_append,
    counted.linted, rest, lints_append, List.length_append]
  omega

end Reaches

section Run

/-- A run that was read comes to its last pass after some rounds. -/
theorem exists_ending_of_read (read : c.read s = (.ok text, u)) (plan : LoopPlan) :
    ∃ n q t ms ends v, n ≤ plan.maxIterations.toNat ∧ c.Reaches plan s n q t ∧ Counted n q ms ∧
      Ending c plan (plan.maxIterations.toNat - n) q t ends (c.run plan s).1 v ∧
      c.history plan s = ms ++ ends ∧ (lints (c.history plan s)).length = n + 1 := by
  refine run_cases c plan s ?_ ?_
  · intro e t unread
    rw [read] at unread
    cases unread
  · intro text' n q s₁ t ms ends answer v read' few rounds ending
    have fits : n < UInt32.size := Nat.lt_of_le_of_lt few plan.maxIterations.toNat_lt
    have counted := (Counted.start s text').rounds rounds fits
    refine ⟨n, q, t, _, ends, v, few, rounds.reaches read' few, counted, ending, rfl, ?_⟩
    rw [← List.cons_append, lints_append, List.length_append, ending.length_lints,
      ← counted.linted]
    rfl

theorem history_of_unread {e : ε} (unread : c.read s = (.error e, u)) (plan : LoopPlan) :
    c.history plan s = [⟨s, .read (.error e)⟩] := by
  rw [history, run, chronicled_read unread]
  rfl

theorem numbers_history (c : Collaborators σ ε) (plan : LoopPlan) (s : σ) :
    Throughout Numbers [] (c.history plan s) := by
  rcases read : c.read s with ⟨e | text, u⟩
  · rw [history_of_unread read]
    exact ⟨trivial, trivial⟩
  · obtain ⟨n, q, t, ms, ends, v, -, -, counted, ending, calls, -⟩ :=
      exists_ending_of_read read plan
    rw [calls, throughout_append]
    exact ⟨counted.numbers, counted.ending ending⟩

theorem length_lints_le (c : Collaborators σ ε) (plan : LoopPlan) (s : σ) :
    (lints (c.history plan s)).length ≤ plan.maxIterations.toNat + 1 := by
  rcases read : c.read s with ⟨e | text, u⟩
  · rw [history_of_unread read]
    exact Nat.zero_le _
  · obtain ⟨n, q, t, ms, ends, v, few, -, -, -, -, count⟩ := exists_ending_of_read read plan
    omega

theorem exists_counts_of_ok {outcome : LoopOutcome} (ended : (c.run plan s).1 = .ok outcome) :
    ∃ n q, Progress.Counts q n ∧ (lints (c.history plan s)).length = n + 1 ∧
      outcome.repairs = q.repairs ∧ ∀ i, outcome.stop = .converged i → i = q.iter + 1 := by
  rcases read : c.read s with ⟨e | text, u⟩
  · rw [run, read] at ended
    cases ended
  · obtain ⟨n, q, t, ms, ends, v, -, reached, -, ending, -, count⟩ :=
      exists_ending_of_read read plan
    refine ⟨n, q, reached.counts, count, ?_⟩
    obtain ⟨k, i | ⟨m, remaining⟩⟩ := outcome
    · obtain ⟨hk, hi, -⟩ := ending.of_converged ended
      refine ⟨hk, fun j hj => ?_⟩
      rw [← hi, Stop.converged.inj hj]
    · obtain ⟨-, hk, -⟩ := ending.of_exceeded ended
      refine ⟨hk, fun j hj => ?_⟩
      cases hj

theorem countsTruly_of_lt (fits : (lints (c.history plan s)).length < UInt32.size) :
    c.CountsTruly plan s := by
  have numbers {earlier later : List (Moment σ ε)} {m : Moment σ ε}
      (split : c.history plan s = earlier ++ m :: later) :
      Numbers earlier m ∧ (lints earlier).length < UInt32.size := by
    have all := numbers_history c plan s
    rw [split] at all fits
    rw [lints_append, List.length_append] at fits
    exact ⟨all.split, by omega⟩
  have numbered {pass : Pass} {n : Nat} (fits : n < UInt32.size)
      (h : pass.iter = UInt32.ofNat n ∧ pass.version.toNat + 1 = n) : pass.Numbered n := by
    refine ⟨?_, h.2⟩
    rw [h.1, UInt32.toNat_ofNat']
    exact Nat.mod_eq_of_lt fits
  exact {
    reached := fun reached => reached.counts
    running := by
      intro n q t reached lint
      have another := reached.lt_lints
      exact reached.counts.numbered (by omega) lint
    linted := fun split => (numbers split).1
    told := fun split => numbered (numbers split).2 (numbers split).1
    kept := fun split => numbered (numbers split).2 (numbers split).1
    converged := by
      intro k i ended
      obtain ⟨n, q, counts, count, repairs, iterations⟩ := exists_counts_of_ok ended
      have iter : i.toNat = n + 1 := by
        rw [iterations i rfl]
        exact (counts.numbered (by omega) ⟨"", "", true⟩).iter
      have made : k.toNat = n := (congrArg UInt32.toNat repairs).trans counts.repairs
      omega
    exceeded := by
      intro k m remaining ended
      obtain ⟨n, q, counts, count, repairs, -⟩ := exists_counts_of_ok ended
      have made : k.toNat = n := (congrArg UInt32.toNat repairs).trans counts.repairs
      omega }

/-- A run counts truly if and only if it makes fewer passes than a word has values, which is so for
every budget below the largest word. With the largest one the counters between passes still hold,
and so do the numbers of versions; the number of a pass is then a word that may have wrapped. -/
theorem run_counts_iff (c : Collaborators σ ε) (plan : LoopPlan) (s : σ) :
    (c.CountsTruly plan s ↔ (lints (c.history plan s)).length < UInt32.size) ∧
      (plan.maxIterations < 4294967295 → c.CountsTruly plan s) ∧
      (∀ {n q t}, c.Reaches plan s n q t → q.Counts n) ∧
      ∀ {earlier later m}, c.history plan s = earlier ++ m :: later → Numbers earlier m := by
  refine ⟨⟨fun truly => ?_, countsTruly_of_lt⟩, fun below => ?_, fun reached => reached.counts, ?_⟩
  · rcases read : c.read s with ⟨e | text, u⟩
    · rw [history_of_unread read]
      exact (by decide : 0 < UInt32.size)
    · obtain ⟨n, q, t, ms, ends, v, -, reached, -, -, -, count⟩ := exists_ending_of_read read plan
      have last := (truly.running reached ⟨"", "", true⟩).iter
      rw [count, ← last]
      exact UInt32.toNat_lt _
  · apply countsTruly_of_lt
    have most := length_lints_le c plan s
    have room : plan.maxIterations.toNat < 4294967295 := UInt32.lt_iff_toNat_lt.mp below
    exact Nat.lt_of_le_of_lt most (Nat.succ_lt_succ room)
  · intro earlier later m split
    have all := numbers_history c plan s
    rw [split] at all
    exact all.split

end Run

section Stubborn

theorem lint_stubborn (q : CommandRequest) (t : Rehearsal.Stage) :
    ∃ output t', stubborn.collaborators.lint q t = (.ok output, t') ∧
      Diagnostic.extract output.stderr ≠ [] :=
  ⟨⟨"", "error[E0308]: mismatched\n--> a:1:14\n|\n", false⟩, _, rfl, by decide +kernel⟩

/-- A rehearsal that never comes clean and never fails spends any budget. -/
theorem ending_stubborn {answer : Except (LoopError String) LoopOutcome} {t u : Rehearsal.Stage}
    {ends : List (Moment Rehearsal.Stage String)}
    (ending : Ending stubborn.collaborators plan left q t ends answer u) :
    left = 0 ∧ ∃ lint t', ends = [⟨t, .lint plan.request (.ok lint)⟩,
      ⟨t', .report ⟨q.pass lint, none⟩⟩,
      ⟨stubborn.collaborators.report ⟨q.pass lint, none⟩ t', .record ⟨q.pass lint, none⟩⟩] := by
  obtain ⟨output, t', ran, some_found⟩ := lint_stubborn plan.request t
  cases ending with
  | unlinted linted => simp [ran] at linted
  | restored linted => simp [ran] at linted
  | unrestored linted => simp [ran] at linted
  | clean linted clean =>
    rw [ran] at linted
    cases linted
    exact absurd clean some_found
  | spent linted found => exact ⟨rfl, _, _, rfl⟩
  | unrepaired _ inquiry unrepaired =>
    simp [Rehearsal.Script.collaborators, Rehearsal.Script.repair, stubborn] at unrepaired
  | unwritten _ inquiry repaired unwritten =>
    simp [Rehearsal.Script.collaborators, Rehearsal.Script.write, stubborn] at unwritten

/-- A budget of one is counted truly to its end. -/
theorem run_counts_stubborn :
    let c := stubborn.collaborators
    let s := stubborn.stage {}
    let plan : LoopPlan := ⟨⟨⟨"."⟩, 5000, 10000⟩, 1⟩
    plan.maxIterations < 4294967295 ∧ c.CountsTruly plan s ∧
      (c.run plan s).1 = .ok ⟨1, .exceeded 1 1⟩ := by
  intro c s plan
  have below : plan.maxIterations < 4294967295 := by decide
  exact ⟨below, (run_counts_iff c plan s).2.1 below, by decide +kernel⟩

/-- A configuration with the largest budget is usable, but the last pass that it allows has no
number: where every lint finds something, that pass is told of as number zero. -/
theorem run_counts_overrun :
    let config : Config :=
      { maxIterations := 4294967295, lintTimeout := 5, agentTimeout := 5
        agent := ⟨.openAi, "m", 1⟩ }
    let c := stubborn.collaborators
    let s := stubborn.stage {}
    let plan := LoopPlan.ofConfig ⟨"."⟩ config
    config.validate = .ok () ∧ ¬ c.CountsTruly plan s ∧
      ∃ earlier later t cycle, c.history plan s = earlier ++ ⟨t, .report cycle⟩ :: later ∧
        (lints earlier).length = 4294967296 ∧ cycle.pass.iter = 0 := by
  intro config c s plan
  have usable : config.validate = .ok () := by decide
  have read : c.read s = (.ok "let x: i32 = \"a\";\n", s) := rfl
  obtain ⟨n, q, t, ms, ends, v, few, reached, counted, ending, calls, count⟩ :=
    exists_ending_of_read read plan
  obtain ⟨spent, lint, t', last⟩ := ending_stubborn ending
  have all : n = 4294967295 := by
    have budget : plan.maxIterations.toNat = 4294967295 := rfl
    omega
  have passes : (lints (ms ++ [⟨t, .lint plan.request (.ok lint)⟩])).length = 4294967296 := by
    rw [counted.lints_eq rfl, all]
  have told : c.history plan s = (ms ++ [⟨t, .lint plan.request (.ok lint)⟩]) ++
      ⟨t', .report ⟨q.pass lint, none⟩⟩ ::
        [⟨c.report ⟨q.pass lint, none⟩ t', .record ⟨q.pass lint, none⟩⟩] := by
    rw [calls, last, List.append_assoc]
    rfl
  have wrapped : (q.pass lint).iter = 0 := by
    rw [(counted.counts.pass lint).1, all]
    decide
  have untrue : ¬ c.CountsTruly plan s := by
    intro truly
    have room := (run_counts_iff c plan s).1.mp truly
    rw [count, all] at room
    exact absurd room (by decide)
  exact ⟨usable, untrue, _, _, t', _, told, passes, wrapped⟩

end Stubborn

end Collaborators
end LintRepair
