import LintRepair.Proofs.Loop.Word

/-!
The calls and reports of every run are a coherent word, and its closing part is the run's verdict.
What the loop keeps in its journal is left out; it stands between these calls and answers nothing.
-/
namespace LintRepair

/-- How a loop's progress stands after some full cycles: the version at hand is the text written
last, and the version before it is the one that the last cycle linted. -/
structure Progress.After {ε : Type} (q : Progress) (text : String) (cycles : List (FullCycle ε)) :
    Prop where
  chained :
    Throughout (fun earlier (f : FullCycle ε) => f.asking.About (textAfter text earlier)) [] cycles
  current : q.current.text = textAfter text cycles
  begun : q.candidate = none → cycles = []
  committed : ∀ v, q.candidate = some v →
    ∃ earlier last, cycles = earlier ++ [last] ∧ q.committed.text = textAfter text earlier

/-- The calls and reports among some calls, without what is kept in the journal. -/
def exchanged {σ ε : Type} (ms : List (Moment σ ε)) : List (Event ε) :=
  (ms.map Moment.event).filter (!·.isRecord)

namespace Collaborators
variable {σ ε : Type}

/-- The calls and reports of a run in their order, without what it keeps in its journal. -/
def exchanges (c : Collaborators σ ε) (plan : LoopPlan) (s : σ) : List (Event ε) :=
  (c.events plan s).filter (!·.isRecord)

variable {c : Collaborators σ ε} {plan : LoopPlan} {p q q' : Progress} {text : String}
variable {left n : Nat} {s t t' u : σ} {ms new ends : List (Moment σ ε)}
variable {cycles : List (FullCycle ε)}

theorem exchanged_append : exchanged (ms ++ new) = exchanged ms ++ exchanged new := by
  rw [exchanged, List.map_append, List.filter_append, ← exchanged, ← exchanged]

theorem exchanges_eq (c : Collaborators σ ε) (plan : LoopPlan) (s : σ) :
    c.exchanges plan s = exchanged (c.history plan s) := by
  rw [exchanges, events_eq_map_history, exchanged]

theorem exists_exchanged_asked (c : Collaborators σ ε) (q : CommandRequest) (known : Lookups)
    (ds : List Diagnostic) (s : σ) : ∃ ls, exchanged (c.asked q known ds s) = lookedUp ls := by
  refine exists_lookedUp_eq fun e he => ?_
  obtain ⟨m, hm, rfl⟩ := List.mem_map.mp (List.mem_filter.mp he).1
  exact event_of_mem_asked hm

/-- Up to the repair request the calls are those of an asking about the version at hand. -/
theorem Inquiry.exists_asking {pass : Pass} {known : List Explanation} {lookups : Lookups}
    (h : Inquiry c plan p s pass ms known lookups t) :
    ∃ a : Asking ε, a.About p.current.text ∧ a.pass = pass ∧
      ∀ x u later, exchanged
          (ms ++ ⟨u, .repair ⟨c.path, p.current.text, pass.diagnostics, known⟩ x⟩ :: later) =
        a.events c.path plan.request x ++ exchanged later := by
  cases h with
  | @found lint s₁ t known lookups linted found explained =>
    obtain ⟨ls, hls⟩ := exists_exchanged_asked c plan.request p.lookups (p.pass lint).diagnostics
      (c.report ⟨p.pass lint, none⟩ s₁)
    refine ⟨⟨p.pass lint, ls, p.current.text, known⟩, ⟨rfl, rfl, found⟩, rfl, fun x u later => ?_⟩
    rw [exchanged_append, Asking.events, ← hls, List.cons_append, List.cons_append,
      List.append_assoc]
    rfl

theorem Round.exists_cycle (after : q.After text cycles) (round : Round c plan q t new q' t') :
    ∃ f : FullCycle ε, exchanged new = f.events c.path plan.request ∧
      q'.After text (cycles ++ [f]) := by
  cases round with
  | @mended pass inquired known lookups r s₂ s₃ s₄ inquiry repaired written =>
    obtain ⟨a, about, rfl, asked⟩ := inquiry.exists_asking
    refine ⟨⟨a, r⟩, asked (.ok r) s₂ _, ?_⟩
    · rw [after.current] at about
      exact {
        chained := throughout_append.mpr ⟨after.chained, about, trivial⟩
        current := (textAfter_concat text cycles ⟨a, r⟩).symm
        begun := nofun
        committed := fun _ _ => ⟨cycles, _, rfl, after.current⟩ }

theorem Rounds.exists_cycles (rounds : Rounds c plan n (.start text) s ms q t) :
    ∃ cycles : List (FullCycle ε), exchanged ms = cycles.flatMap (·.events c.path plan.request) ∧
      q.After text cycles := by
  generalize hp : Progress.start text = p at rounds
  induction rounds with
  | refl p s =>
    subst hp
    exact ⟨[], rfl, trivial, rfl, fun _ => rfl, nofun⟩
  | tail before last ih =>
    obtain ⟨cycles, heard, after⟩ := ih hp
    obtain ⟨f, heard', after'⟩ := last.exists_cycle after
    refine ⟨cycles ++ [f], ?_, after'⟩
    rw [exchanged_append, heard, heard', List.flatMap_append, List.flatMap_singleton]

/-- An ending is a closing part. What it writes back is the version before the one at hand, and it
completes no lint then. -/
theorem Ending.exists_tail {answer : Except (LoopError ε) LoopOutcome}
    (after : q.After text cycles) (ending : Ending c plan left q t ends answer u) :
    ∃ tail : Tail ε, exchanged ends = tail.events c.path plan.request ∧ tail.Fits text cycles ∧
      tail.Verdict plan answer ∧
      ∀ e old a, tail = .restored e old a → old = q.committed.text ∧
        ∀ stored : σ → String, ends.filterMap (·.linted? stored) = [] := by
  cases ending with
  | @unlinted _ _ s s₁ e linted settled =>
    exact ⟨.unlinted e, rfl, after.begun settled, rfl, nofun⟩
  | @restored _ _ v s s₁ s₂ e linted pending written =>
    refine ⟨.restored e q.committed.text (.ok ()), rfl, after.committed v pending, rfl, ?_⟩
    rintro e old a ⟨⟩
    exact ⟨rfl, fun stored => rfl⟩
  | @unrestored _ _ v s s₁ s₂ e f linted pending unwritten =>
    refine ⟨.restored e q.committed.text (.error f), rfl, after.committed v pending, rfl, ?_⟩
    rintro e old a ⟨⟩
    exact ⟨rfl, fun stored => rfl⟩
  | @clean _ _ lint s s₁ s₂ a linted clean formatted =>
    exact ⟨.clean (q.pass lint) a, rfl, ⟨clean, clean⟩, ⟨_, rfl⟩, nofun⟩
  | @spent _ lint s s₁ linted found =>
    exact ⟨.spent (q.pass lint), rfl, ⟨rfl, found⟩, ⟨_, rfl⟩, nofun⟩
  | @unrepaired _ _ pass inquired known lookups s s₂ s₃ e inquiry unrepaired =>
    obtain ⟨a, about, rfl, asked⟩ := inquiry.exists_asking
    rw [after.current] at about
    exact ⟨.unrepaired a e, (asked _ _ []).trans (List.append_nil _), about, rfl, nofun⟩
  | @unwritten _ _ pass inquired known lookups r s s₂ s₃ s₄ e inquiry repaired unwritten =>
    obtain ⟨a, about, rfl, asked⟩ := inquiry.exists_asking
    rw [after.current] at about
    exact ⟨.unwritten a r e, asked _ _ _, about, rfl, nofun⟩

/-- The text that an ended run writes back was linted last. -/
theorem Rounds.eq_linted {stored : σ → String}
    (kept : c.Keeps stored) (rounds : Rounds c plan n (.start text) s ms q t) (held : stored s = text)
    (read : σ) (incomplete : ends.filterMap (·.linted? stored) = []) :
    q.committed.text = linted stored text (⟨read, .read (.ok text)⟩ :: (ms ++ ends)) := by
  have stands := (Stands.start held).rounds kept rounds
  rw [linted, List.filterMap_cons_none rfl, ← linted, linted_append_of_nil incomplete]
  exact stands.committed.symm

/-- The calls and reports of a run are a coherent word, which they spell in no other way: the read,
full cycles, each about the text before it, and the one closing part that the run's answer names.
They are in order. If the store keeps what the loop writes, a text that is written back is the one
that the last completed lint was run against. -/
theorem run_order (c : Collaborators σ ε) (plan : LoopPlan) (s : σ) :
    ∃ w : Word ε, c.exchanges plan s = w.events c.path plan.request ∧
      (∀ w' : Word ε, c.exchanges plan s = w'.events c.path plan.request → w' = w) ∧
      w.Coherent ∧ w.Verdict plan (c.run plan s).1 ∧ Orderly (c.exchanges plan s) ∧
      ∀ stored text s₁ old, c.Keeps stored → c.read s = (.ok text, s₁) → stored s₁ = text →
        w.restored? = some old → old = linted stored text (c.history plan s) := by
  rw [exchanges_eq]
  refine run_cases c plan s ?_ ?_
  · intro e t unread
    have coherent : Word.Coherent (.unread e : Word ε) := trivial
    exact ⟨.unread e, rfl, fun w' h => Word.events_inj h.symm, coherent, rfl,
      Word.orderly c.path plan.request coherent, nofun⟩
  · intro text n q s₁ t ms ends answer u read few rounds ending
    obtain ⟨cycles, heard, after⟩ := rounds.exists_cycles
    obtain ⟨tail, heard', fits, verdict, restored⟩ := ending.exists_tail after
    have coherent : Word.Coherent (.ended text cycles tail) := ⟨after.chained, fits⟩
    have same : exchanged (⟨s, .read (.ok text)⟩ :: (ms ++ ends)) =
        Word.events c.path plan.request (.ended text cycles tail) := by
      rw [Word.events, ← heard, ← heard', ← exchanged_append]
      rfl
    rw [same]
    refine ⟨_, rfl, fun w' h => Word.events_inj h.symm, coherent, verdict,
      Word.orderly c.path plan.request coherent, ?_⟩
    intro stored text' s₁' old kept read' held put
    rw [read] at read'
    obtain ⟨rfl, rfl⟩ : text = text' ∧ s₁ = s₁' := by simpa using read'
    cases tail with
    | restored e text' a =>
      cases put
      obtain ⟨rfl, incomplete⟩ := restored e _ a rfl
      exact rounds.eq_linted kept held s (incomplete stored)
    | _ => cases put

/-- How that rehearsal goes: one full cycle, and the text from before it is written back. -/
def faltered : Word String :=
  .ended "let x: i32 = \"a\";\n"
    [{ asking :=
        { pass := ⟨1, 0, ⟨"", "error[E0308]: mismatched\n--> a:1:14\n|\n", false⟩,
            [{ code := "E0308", title := "mismatched", location := "--> a:1:14", context := "|" }]⟩
          lookups := [("E0308", .ok none)]
          source := "let x: i32 = \"a\";\n"
          known := [] }
       repair := Rehearsal.handOver "let x: i32 = 1;\n" }]
    (.restored "timed out" "let x: i32 = \"a\";\n" (.error "disk full"))

theorem run_order_faltering :
    let c := faltering.collaborators
    let s := faltering.stage {}
    let plan : LoopPlan := ⟨⟨⟨"."⟩, 5000, 10000⟩, 3⟩
    c.Keeps Rehearsal.Stage.source ∧ c.read s = (.ok "let x: i32 = \"a\";\n", s) ∧
      s.source = "let x: i32 = \"a\";\n" ∧
      c.exchanges plan s = faltered.events c.path plan.request ∧ faltered.Coherent ∧
      faltered.Verdict plan (c.run plan s).1 ∧
      "let x: i32 = \"a\";\n" =
        linted Rehearsal.Stage.source "let x: i32 = \"a\";\n" (c.history plan s) := by
  intro c s plan
  have kept : c.Keeps Rehearsal.Stage.source := keeps_rehearsal faltering
  have read : c.read s = (.ok "let x: i32 = \"a\";\n", s) := rfl
  obtain ⟨w, -, unique, coherent, verdict, -, restored⟩ := run_order c plan s
  have spelled : c.exchanges plan s = faltered.events c.path plan.request := by decide +kernel
  obtain rfl := unique faltered spelled
  exact ⟨kept, read, rfl, spelled, coherent, verdict, restored _ _ _ _ kept read rfl rfl⟩

end Collaborators
end LintRepair
