import LintRepair.Loop.Rehearsal
import LintRepair.Proofs.Loop.Round

/-!
The verdict of a run against its calls. A run lints at most once more than it may repair. It
converges at the first lint that finds nothing, and it is exhausted when every lint it could afford
found something; the numbers it reports are the numbers of its calls.
-/
namespace LintRepair
namespace Event
variable {ε : Type}

def isLint : Event ε → Bool
  | .lint _ _ => true
  | _ => false

def isRepair : Event ε → Bool
  | .repair _ _ => true
  | _ => false

def isWrite : Event ε → Bool
  | .write _ _ => true
  | _ => false

def found? : Event ε → Option (List Diagnostic)
  | .lint _ (.ok output) => some (Diagnostic.extract output.stderr)
  | _ => none

def isFailure : Event ε → Bool
  | .read (.error _) | .lint _ (.error _) | .repair _ (.error _) | .write _ (.error _) => true
  | _ => false

end Event

/-- The numbers of lints, repairs and writes among some calls, and what the lints found. -/
structure Tally {ε : Type} (es : List (Event ε)) (lints repairs writes : Nat)
    (found : List (List Diagnostic)) : Prop where
  lints : es.countP Event.isLint = lints
  repairs : es.countP Event.isRepair = repairs
  writes : es.countP Event.isWrite = writes
  found : es.filterMap Event.found? = found

theorem Tally.append {ε : Type} {es es' : List (Event ε)} {l l' r r' w w' : Nat}
    {f f' : List (List Diagnostic)} (h : Tally es l r w f) (h' : Tally es' l' r' w' f') :
    Tally (es ++ es') (l + l') (r + r') (w + w') (f ++ f') where
  lints := by rw [List.countP_append, h.lints, h'.lints]
  repairs := by rw [List.countP_append, h.repairs, h'.repairs]
  writes := by rw [List.countP_append, h.writes, h'.writes]
  found := by rw [List.filterMap_append, h.found, h'.found]

/-- The calls of a run that converged after `k` repairs: the last lint, the `i`-th, found nothing
and all before it something. -/
structure Converges {ε : Type} (plan : LoopPlan) (es : List (Event ε)) (k i : UInt32) : Prop where
  iterations : i.toNat = es.countP Event.isLint
  lints : es.countP Event.isLint = k.toNat + 1
  repairs : es.countP Event.isRepair = k.toNat
  writes : es.countP Event.isWrite = k.toNat
  few : k ≤ plan.maxIterations
  completed : (es.filterMap Event.found?).length = es.countP Event.isLint
  clean : ∃ earlier, es.filterMap Event.found? = earlier ++ [[]] ∧ ∀ ds ∈ earlier, ds ≠ []

/-- The calls of a run that spent its budget `m` on `k` repairs: every lint found something, the
last one this many diagnostics. -/
structure Exhausts {ε : Type} (plan : LoopPlan) (es : List (Event ε)) (k m : UInt32)
    (remaining : Nat) : Prop where
  budget : m = plan.maxIterations
  repairs : k = plan.maxIterations
  lints : es.countP Event.isLint = plan.maxIterations.toNat + 1
  completed : (es.filterMap Event.found?).length = plan.maxIterations.toNat + 1
  found : ∀ ds ∈ es.filterMap Event.found?, ds ≠ []
  last : (es.filterMap Event.found?).getLast?.map List.length = some remaining

namespace Collaborators
variable {σ ε : Type} {c : Collaborators σ ε} {plan : LoopPlan} {p q q' : Progress}
variable {text : String} {left n : Nat} {s t t' u : σ} {ms new ends : List (Moment σ ε)}

theorem tally_asked (c : Collaborators σ ε) (q : CommandRequest) (known : Lookups)
    (ds : List Diagnostic) (s : σ) : Tally ((c.asked q known ds s).map Moment.event) 0 0 0 [] := by
  have explain {e : Event ε} (he : e ∈ (c.asked q known ds s).map Moment.event) :
      ∃ code a, e = .explain code a := by
    obtain ⟨m, hm, rfl⟩ := List.mem_map.mp he
    exact event_of_mem_asked hm
  constructor
  · rw [List.countP_eq_zero]
    intro e he
    obtain ⟨code, a, rfl⟩ := explain he
    simp [Event.isLint]
  · rw [List.countP_eq_zero]
    intro e he
    obtain ⟨code, a, rfl⟩ := explain he
    simp [Event.isRepair]
  · rw [List.countP_eq_zero]
    intro e he
    obtain ⟨code, a, rfl⟩ := explain he
    simp [Event.isWrite]
  · rw [List.filterMap_eq_nil_iff]
    intro e he
    obtain ⟨code, a, rfl⟩ := explain he
    rfl

/-- Up to the repair request there is one lint, and it found something. -/
theorem Inquiry.tally {pass : Pass} {known : List Explanation} {lookups : Lookups}
    (h : Inquiry c plan p s pass ms known lookups t) :
    Tally (ms.map Moment.event) 1 0 0 [pass.diagnostics] ∧ pass.diagnostics ≠ [] := by
  cases h with
  | @found lint s₁ t known lookups ran found explained =>
    refine ⟨?_, found⟩
    have told : Tally [Event.lint plan.request (.ok lint), (.report ⟨p.pass lint, none⟩ : Event ε)]
        1 0 0 [(p.pass lint).diagnostics] := ⟨rfl, rfl, rfl, rfl⟩
    exact told.append (tally_asked c plan.request p.lookups (p.pass lint).diagnostics _)

theorem Round.tally (round : Round c plan q t new q' t') :
    ∃ ds, Tally (new.map Moment.event) 1 1 1 [ds] ∧ ds ≠ [] := by
  cases round with
  | @mended pass inquired known lookups r s₂ s₃ s₄ inquiry repaired written =>
    obtain ⟨tally, found⟩ := inquiry.tally
    refine ⟨pass.diagnostics, ?_, found⟩
    rw [List.map_append]
    show Tally _ (1 + 0) (0 + 1) (0 + 1) ([pass.diagnostics] ++ [])
    exact tally.append ⟨rfl, rfl, rfl, rfl⟩

/-- So many rounds are as many lints, repairs and writes, and every lint found something. -/
theorem Rounds.tally (rounds : Rounds c plan n p s ms q t) :
    ∃ fs, Tally (ms.map Moment.event) n n n fs ∧ fs.length = n ∧ ∀ ds ∈ fs, ds ≠ [] := by
  induction rounds with
  | refl => exact ⟨[], ⟨rfl, rfl, rfl, rfl⟩, rfl, nofun⟩
  | tail before last ih =>
    obtain ⟨fs, tally, length, found⟩ := ih
    obtain ⟨ds, tally', found'⟩ := last.tally
    refine ⟨fs ++ [ds], ?_, by simp [length], ?_⟩
    · rw [List.map_append]
      exact tally.append tally'
    · intro x hx
      rcases List.mem_append.mp hx with hx | hx
      · exact found x hx
      · rw [List.mem_singleton.mp hx]
        exact found'

/-- The counters of a run are right as long as they fit their words. -/
theorem Rounds.counters (rounds : Rounds c plan n (.start text) s ms q t)
    (fits : n < UInt32.size) : q.iter.toNat = n ∧ q.repairs.toNat = n := by
  generalize hp : Progress.start text = p at rounds
  induction rounds with
  | refl => subst hp; exact ⟨rfl, rfl⟩
  | @tail n p q q' s t t' ms new before last ih =>
    obtain ⟨iter, repairs⟩ := ih (Nat.lt_of_succ_lt fits) hp
    cases last with
    | mended inquiry repaired written =>
      simp only [Progress.repaired, UInt32.toNat_add, iter, repairs, UInt32.reduceToNat]
      exact ⟨Nat.mod_eq_of_lt fits, Nat.mod_eq_of_lt fits⟩

section Ending
variable {answer : Except (LoopError ε) LoopOutcome}

theorem Ending.lints (ending : Ending c plan left q t ends answer u) :
    (ends.map Moment.event).countP Event.isLint = 1 := by
  cases ending with
  | unrepaired _ inquiry unrepaired =>
    rw [List.map_append, List.countP_append, inquiry.tally.1.lints]
    rfl
  | unwritten _ inquiry repaired unwritten =>
    rw [List.map_append, List.countP_append, inquiry.tally.1.lints]
    rfl
  | _ => rfl

theorem Ending.of_converged {k i : UInt32} (ending : Ending c plan left q t ends answer u)
    (h : answer = .ok ⟨k, .converged i⟩) :
    k = q.repairs ∧ i = q.iter + 1 ∧ Tally (ends.map Moment.event) 1 0 0 [[]] := by
  cases ending with
  | @clean _ p lint s s₁ s₂ a ran clean formatted =>
    simp only [Except.ok.injEq, LoopOutcome.mk.injEq, Stop.converged.injEq] at h
    refine ⟨h.1.symm, h.2.symm, rfl, rfl, rfl, ?_⟩
    exact congrArg (fun ds => [ds]) clean
  | _ => simp at h

theorem Ending.of_exceeded {k m : UInt32} {remaining : Nat}
    (ending : Ending c plan left q t ends answer u) (h : answer = .ok ⟨k, .exceeded m remaining⟩) :
    left = 0 ∧ k = q.repairs ∧ m = plan.maxIterations ∧
      ∃ ds, ds ≠ [] ∧ ds.length = remaining ∧ Tally (ends.map Moment.event) 1 0 0 [ds] := by
  cases ending with
  | @spent p lint s s₁ ran found =>
    simp only [Except.ok.injEq, LoopOutcome.mk.injEq, Stop.exceeded.injEq] at h
    exact ⟨rfl, h.1.symm, h.2.1.symm, _, found, h.2.2, rfl, rfl, rfl, rfl⟩
  | _ => simp at h

theorem Ending.failure_of_error {f : LoopError ε} (ending : Ending c plan left q t ends answer u)
    (h : answer = .error f) : ∃ e ∈ ends.map Moment.event, e.isFailure = true := by
  cases ending with
  | unlinted => exact ⟨_, List.mem_cons_self, rfl⟩
  | restored => exact ⟨_, List.mem_cons_self, rfl⟩
  | unrestored => exact ⟨_, List.mem_cons_self, rfl⟩
  | clean => cases h
  | spent => cases h
  | unrepaired _ inquiry unrepaired =>
    rw [List.map_append]
    exact ⟨_, List.mem_append_right _ List.mem_cons_self, rfl⟩
  | unwritten _ inquiry repaired unwritten =>
    rw [List.map_append]
    exact ⟨_, List.mem_append_right _ (List.mem_cons_of_mem _ List.mem_cons_self), rfl⟩

end Ending

section Course
variable {answer : Except (LoopError ε) LoopOutcome} {k i m : UInt32} {remaining : Nat}

/-- The calls of a run that was read, went through some rounds and ended. -/
theorem Rounds.tally_ending {r w : Nat} {f : List (List Diagnostic)}
    (rounds : Rounds c plan n p s ms q t) (text : String)
    (h : Tally (ends.map Moment.event) 1 r w f) :
    ∃ fs, Tally (.read (.ok text) :: (ms ++ ends).map Moment.event) (n + 1) (n + r) (n + w)
        (fs ++ f) ∧ fs.length = n ∧ ∀ ds ∈ fs, ds ≠ [] := by
  obtain ⟨fs, tally, length, found⟩ := rounds.tally
  have both := tally.append h
  rw [← List.map_append] at both
  exact ⟨fs, ⟨both.lints, both.repairs, both.writes, both.found⟩, length, found⟩

theorem Rounds.lints_ending (rounds : Rounds c plan n p s ms q t) (text : String)
    (ending : Ending c plan left q t ends answer u) :
    (.read (.ok text) :: (ms ++ ends).map Moment.event).countP Event.isLint = n + 1 := by
  obtain ⟨fs, tally, -⟩ := rounds.tally
  rw [List.map_append, List.countP_cons_of_neg (by simp [Event.isLint]), List.countP_append,
    tally.lints, ending.lints]

theorem Rounds.converges (rounds : Rounds c plan n (.start text) s ms q t)
    (few : n ≤ plan.maxIterations.toNat) (fits : n + 1 < UInt32.size)
    (ending : Ending c plan left q t ends answer u) (h : answer = .ok ⟨k, .converged i⟩) :
    Converges plan (.read (.ok text) :: (ms ++ ends).map Moment.event) k i := by
  obtain ⟨iter, repairs⟩ := rounds.counters (Nat.lt_of_succ_lt fits)
  obtain ⟨rfl, rfl, tally⟩ := ending.of_converged h
  obtain ⟨fs, whole, length, found⟩ := rounds.tally_ending text tally
  exact {
    iterations := by
      rw [whole.lints, UInt32.toNat_add, iter]
      exact Nat.mod_eq_of_lt fits
    lints := by rw [whole.lints, repairs]
    repairs := by rw [whole.repairs, repairs, Nat.add_zero]
    writes := by rw [whole.writes, repairs, Nat.add_zero]
    few := by rwa [UInt32.le_iff_toNat_le, repairs]
    completed := by rw [whole.found, whole.lints, List.length_append, length, List.length_singleton]
    clean := ⟨fs, whole.found, found⟩ }

theorem Rounds.exhausts (rounds : Rounds c plan n (.start text) s ms q t)
    (few : n ≤ plan.maxIterations.toNat) (fits : n + 1 < UInt32.size)
    (ending : Ending c plan (plan.maxIterations.toNat - n) q t ends answer u)
    (h : answer = .ok ⟨k, .exceeded m remaining⟩) :
    Exhausts plan (.read (.ok text) :: (ms ++ ends).map Moment.event) k m remaining := by
  obtain ⟨-, repairs⟩ := rounds.counters (Nat.lt_of_succ_lt fits)
  obtain ⟨spent, rfl, rfl, ds, some_found, last, tally⟩ := ending.of_exceeded h
  obtain ⟨fs, whole, length, found⟩ := rounds.tally_ending text tally
  have all : n = plan.maxIterations.toNat := by omega
  exact {
    budget := rfl
    repairs := UInt32.toNat_inj.mp (repairs.trans all)
    lints := by rw [whole.lints, all]
    completed := by rw [whole.found, List.length_append, length, all, List.length_singleton]
    found := by
      intro x hx
      rw [whole.found] at hx
      rcases List.mem_append.mp hx with hx | hx
      · exact found x hx
      · rwa [List.mem_singleton.mp hx]
    last := by rw [whole.found, List.getLast?_concat, Option.map_some, last] }

end Course

/-- The verdict of a run is exact: it lints at most once more than its budget allows repairs, says
that it converged or is exhausted only with the numbers of its calls, and without a failed call it
converges if and only if one of the lints that the budget allows finds nothing. -/
theorem run_verdict (bounded : plan.maxIterations < 4294967295) (c : Collaborators σ ε) (s : σ) :
    (c.events plan s).countP Event.isLint ≤ plan.maxIterations.toNat + 1 ∧
      (∀ k i, (c.run plan s).1 = .ok ⟨k, .converged i⟩ → Converges plan (c.events plan s) k i) ∧
      (∀ k m remaining, (c.run plan s).1 = .ok ⟨k, .exceeded m remaining⟩ →
        Exhausts plan (c.events plan s) k m remaining) ∧
      ((∀ e ∈ c.events plan s, e.isFailure = false) →
        ((∃ k i, (c.run plan s).1 = .ok ⟨k, .converged i⟩) ↔
          [] ∈ ((c.events plan s).filterMap Event.found?).take (plan.maxIterations.toNat + 1))) := by
  have fits : plan.maxIterations.toNat + 1 < UInt32.size :=
    Nat.succ_lt_succ (UInt32.lt_iff_toNat_lt.mp bounded)
  rw [events_eq_map_history]
  refine run_cases c plan s ?_ ?_
  · intro e t unread
    refine ⟨Nat.zero_le _, nofun, nofun, ?_⟩
    simp [Event.isFailure]
  · intro text n q s₁ t ms ends answer u read few rounds ending
    simp only [List.map_cons]
    have fits' : n + 1 < UInt32.size := by omega
    have lints := rounds.lints_ending text ending
    refine ⟨by omega, fun k i h => rounds.converges few fits' ending h,
      fun k m remaining h => rounds.exhausts few fits' ending h, fun fine => ⟨?_, ?_⟩⟩
    · rintro ⟨k, i, h⟩
      have converges := rounds.converges few fits' ending h
      obtain ⟨earlier, clean, -⟩ := converges.clean
      rw [List.take_of_length_le (by rw [converges.completed, lints]; omega), clean]
      simp
    · intro clean
      rcases ha : answer with f | ⟨k, i | ⟨m, remaining⟩⟩
      · obtain ⟨e, he, failed⟩ := ending.failure_of_error ha
        have never := fine e (by
          rw [List.map_append]
          exact List.mem_cons_of_mem _ (List.mem_append_right _ he))
        rw [failed] at never
        cases never
      · exact ⟨k, i, rfl⟩
      · exact absurd rfl ((rounds.exhausts few fits' ending ha).found []
          (List.mem_of_mem_take clean))

/-- A rehearsal whose lints always find something, with every repair the source as it is. -/
def stubborn : Rehearsal.Script where
  source := .ok "let x: i32 = \"a\";\n"
  lintAfter := .ok ⟨"", "error[E0308]: mismatched\n--> a:1:14\n|\n", false⟩
  echo := true

/-- One repair does not help here: two lints are run and the last one finds one diagnostic. -/
theorem run_verdict_stubborn :
    let c := stubborn.collaborators
    let s := stubborn.stage {}
    let plan : LoopPlan := ⟨⟨⟨"."⟩, 5000, 10000⟩, 1⟩
    plan.maxIterations < 4294967295 ∧ Exhausts plan (c.events plan s) 1 1 1 := by
  intro c s plan
  have bounded : plan.maxIterations < 4294967295 := by decide
  have ran : (c.run plan s).1.toOption = some ⟨1, .exceeded 1 1⟩ := by decide +kernel
  refine ⟨bounded, (run_verdict bounded c s).2.2.1 1 1 1 ?_⟩
  rcases he : (c.run plan s).1 with f | outcome
  · rw [he] at ran
    cases ran
  · rw [he] at ran
    exact congrArg Except.ok (Option.some.inj ran)

end Collaborators
end LintRepair
