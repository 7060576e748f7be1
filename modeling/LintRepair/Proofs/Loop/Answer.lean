import LintRepair.Proofs.Loop.Verdict

/-!
The answer of a run against its calls, whatever the budget is. Its three forms are told apart by
what the lints found and by whether a call failed, so none of the counters is asked.
-/
namespace LintRepair.Collaborators
variable {σ ε : Type}

/-- What the answer of a loop says about its calls, of which so many repairs were still allowed: it
converged if a lint found nothing, its budget was spent if the lints found something once more than
that, and it failed if a call did. -/
structure Settles (left : Nat) (es : List (Event ε)) (answer : Except (LoopError ε) LoopOutcome) :
    Prop where
  converged : (∃ k i, answer = .ok ⟨k, .converged i⟩) ↔ [] ∈ es.filterMap Event.found?
  exceeded : (∃ k m remaining, answer = .ok ⟨k, .exceeded m remaining⟩) ↔
    left < (es.filterMap Event.found?).length ∧ [] ∉ es.filterMap Event.found?
  failed : (∃ e, answer = .error e) ↔ ∃ e ∈ es, e.isFailure = true

variable {c : Collaborators σ ε} {plan : LoopPlan} {p q q' : Progress} {left n : Nat}
variable {s t t' u : σ} {ms new ends : List (Moment σ ε)} {es es' : List (Event ε)}
variable {answer : Except (LoopError ε) LoopOutcome}

theorem Inquiry.fine {pass : Pass} {known : List Explanation} {lookups : Lookups}
    (h : Inquiry c plan p s pass ms known lookups t) :
    ∀ e ∈ ms.map Moment.event, e.isFailure = false := by
  cases h with
  | found ran found explained =>
    intro e he
    simp only [List.map_cons, List.mem_cons] at he
    rcases he with rfl | rfl | he
    · rfl
    · rfl
    · obtain ⟨m, hm, rfl⟩ := List.mem_map.mp he
      obtain ⟨code, a, asked⟩ := event_of_mem_asked hm
      rw [asked]
      rfl

theorem Round.fine (round : Round c plan q t new q' t') :
    ∀ e ∈ new.map Moment.event, e.isFailure = false := by
  cases round with
  | mended inquiry repaired written =>
    intro e he
    rw [List.map_append, List.mem_append] at he
    rcases he with he | he
    · exact inquiry.fine e he
    · simp only [List.map_cons, List.map_nil, List.mem_cons, List.not_mem_nil, or_false] at he
      rcases he with rfl | rfl | rfl | rfl <;> rfl

/-- Calls that went well and found something allow for one lint less behind them. -/
theorem Settles.after (h : Settles left es answer) {ds : List Diagnostic} (found : ds ≠ [])
    (once : es'.filterMap Event.found? = [ds]) (fine : ∀ e ∈ es', e.isFailure = false) :
    Settles (left + 1) (es' ++ es) answer where
  converged := by
    rw [h.converged, List.filterMap_append, once, List.singleton_append, List.mem_cons,
      or_iff_right found.symm]
  exceeded := by
    rw [h.exceeded, List.filterMap_append, once, List.singleton_append, List.mem_cons,
      or_iff_right found.symm, List.length_cons, Nat.succ_lt_succ_iff]
  failed := by
    rw [h.failed]
    constructor
    · rintro ⟨e, he, failed⟩
      exact ⟨e, List.mem_append_right _ he, failed⟩
    · rintro ⟨e, he, failed⟩
      rcases List.mem_append.mp he with he | he
      · rw [fine e he] at failed
        cases failed
      · exact ⟨e, he, failed⟩

end LintRepair.Collaborators
