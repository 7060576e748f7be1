import LintRepair.Proofs.Loop.Alike

/-!
The parts of a loop that are only tried do not influence a run. Whether a lookup fails or finds
nothing, how the format pass ends, and whether and where a journal is kept: the calls, the reports,
the verdict and the stored source stay the same.
-/
namespace LintRepair

/-- The calls among some calls, without answers. -/
def called {σ ε : Type} (ms : List (Moment σ ε)) : List Call :=
  ms.filterMap (·.event.call?)

namespace Collaborators
variable {σ τ ε μ α β : Type}

/-- Two runs on their way: their calls so far, the last one first, are the same, and no format pass
was made. -/
structure Ongoing (R : σ → τ → Prop) (x : σ × List (Moment σ ε)) (y : τ × List (Moment τ ε)) :
    Prop where
  called : called x.2 = called y.2
  related : R x.1 y.1
  unformatted : beforeFormat x.2.reverse x.1 = x.1
  unformatted' : beforeFormat y.2.reverse y.1 = y.1

/-- Two runs at their end: their calls are the same, and so far as to the format pass their states
are related. -/
structure Ended (R : σ → τ → Prop) (x : σ × List (Moment σ ε)) (y : τ × List (Moment τ ε)) :
    Prop where
  called : called x.2 = called y.2
  related : R (beforeFormat x.2.reverse x.1) (beforeFormat y.2.reverse y.1)

variable {message : ε → μ} {R : σ → τ → Prop} {c : Collaborators σ ε} {d : Collaborators τ ε}
variable {s s₁ : σ} {t t₁ : τ}

theorem beforeFormat_concat {e : Event ε} (ms : List (Moment σ ε)) (s₁ : σ)
    (other : e.call? ≠ some .format) : beforeFormat (⟨s, e⟩ :: ms).reverse s₁ = s₁ := by
  rw [List.reverse_cons, beforeFormat, List.getLast?_concat]
  cases e with
  | format a => exact absurd rfl other
  | _ => rfl

theorem Ongoing.ended {x : σ × List (Moment σ ε)} {y : τ × List (Moment τ ε)}
    (ongoing : Ongoing R x y) : Ended R x y where
  called := ongoing.called
  related := by
    rw [ongoing.unformatted, ongoing.unformatted']
    exact ongoing.related

theorem Ongoing.next {ms : List (Moment σ ε)} {ns : List (Moment τ ε)} {e f : Event ε}
    (ongoing : Ongoing R (s, ms) (t, ns)) (related : R s₁ t₁) (same : e.call? = f.call?)
    (other : e.call? ≠ some .format) : Ongoing R (s₁, ⟨s, e⟩ :: ms) (t₁, ⟨t, f⟩ :: ns) where
  called := by
    have before : LintRepair.called ms = LintRepair.called ns := ongoing.called
    simp only [LintRepair.called, List.filterMap_cons, same] at before ⊢
    rw [before]
  related := related
  unformatted := beforeFormat_concat ms s₁ other
  unformatted' := beforeFormat_concat ns t₁ (same ▸ other)

theorem Answers.dated {like : α → β} {call : σ → Except ε α × σ} {call' : τ → Except ε α × τ}
    {event : Except ε α → Event ε} {x : σ × List (Moment σ ε)} {y : τ × List (Moment τ ε)}
    (answer : Answers message like R (call x.1) (call' y.1)) (ongoing : Ongoing R x y) (k : Call)
    (same : ∀ a, (event a).call? = some k) (other : k ≠ .format) :
    Answers message like (Ongoing R) (dated call event x) (dated call' event y) := by
  have next {a b : Except ε α} {s₁ : σ} {t₁ : τ} (related : R s₁ t₁) :
      Ongoing R (s₁, ⟨x.1, event a⟩ :: x.2) (t₁, ⟨y.1, event b⟩ :: y.2) :=
    ongoing.next related ((same a).trans (same b).symm) (by rw [same]; simpa using other)
  unfold Collaborators.dated
  generalize call x.1 = u at answer
  generalize call' y.1 = v at answer
  cases answer with
  | failed same related => exact .failed same (next related)
  | given same related => exact .given same (next related)

/-- Collaborators that answer alike do so while their calls are kept, and these are the same. -/
theorem Alike.chronicled (alike : Alike message R c d) :
    Alike message (Ongoing R) c.chronicled d.chronicled where
  path := alike.path
  read ongoing := (alike.read ongoing.related).dated ongoing .read (fun _ => rfl) nofun
  write text _ _ ongoing :=
    (alike.write text ongoing.related).dated ongoing (.write text) (fun _ => rfl) nofun
  lint q _ _ ongoing := (alike.lint q ongoing.related).dated ongoing (.lint q) (fun _ => rfl) nofun
  explain code q _ _ ongoing := by
    obtain ⟨same, related⟩ := alike.explain code q ongoing.related
    exact ⟨same, ongoing.next related rfl nofun⟩
  repair r _ _ ongoing :=
    (alike.repair r ongoing.related).dated ongoing (.repair r) (fun _ => rfl) nofun
  report told ongoing :=
    ongoing.next (alike.report told ongoing.related) (congrArg (some ∘ Call.report) told) nofun
  record told ongoing := ongoing.next (alike.record told ongoing.related) rfl nofun

theorem Ongoing.formatted {x : σ × List (Moment σ ε)} {y : τ × List (Moment τ ε)}
    (ongoing : Ongoing R x y) (q : CommandRequest) :
    Ended R (c.chronicled.format q x).2 (d.chronicled.format q y).2 where
  called := by
    have before := ongoing.called
    simp only [chronicled, dated, LintRepair.called, List.filterMap_cons] at before ⊢
    rw [before]
    rfl
  related := by
    simp only [chronicled, dated, List.reverse_cons, beforeFormat, List.getLast?_concat]
    exact ongoing.related

theorem Answers.states {like : α → β} {x : Except ε α × σ} {y : Except ε α × τ}
    (answers : Answers message like R x y) : R x.2 y.2 := by
  cases answers with
  | failed _ related => exact related
  | given _ related => exact related

theorem Answers.mapError_eq {x : Except ε α × σ} {y : Except ε α × τ}
    (answers : Answers message id R x y) : x.1.mapError message = y.1.mapError message := by
  cases answers with
  | failed same _ => exact congrArg Except.error same
  | given same _ => exact congrArg Except.ok same

theorem run_eq_chronicled (c : Collaborators σ ε) (plan : LoopPlan) (s : σ) :
    c.run plan s = Prod.map id Prod.fst (c.chronicled.run plan (s, [])) :=
  c.shows_chronicled.run_eq plan (s, [])

/-- Runs whose collaborators answer alike make the same calls with the same arguments and the same
reports, and end with the same outcome or errors that read the same. Up to the format pass they
leave the same stored, and in the end as well if the format passes do not change what is stored. -/
theorem run_alike {stored : σ → α} {stored' : τ → α} (alike : Alike message R c d)
    (agrees : ∀ {s t}, R s t → stored s = stored' t) (plan : LoopPlan) (related : R s t) :
    (c.events plan s).filterMap Event.call? = (d.events plan t).filterMap Event.call? ∧
      (c.run plan s).1.mapError (·.map message) = (d.run plan t).1.mapError (·.map message) ∧
      stored (c.settled plan s) = stored' (d.settled plan t) ∧
      ((∀ q u, stored (c.format q u).2 = stored u) →
        (∀ q u, stored' (d.format q u).2 = stored' u) →
        stored (c.run plan s).2 = stored' (d.run plan t).2) := by
  have before : Ongoing R (s, ([] : List (Moment σ ε))) (t, ([] : List (Moment τ ε))) :=
    ⟨rfl, related, rfl, rfl⟩
  have answers : Answers (LoopError.map message) id (Ended R) (c.chronicled.run plan (s, []))
      (d.chronicled.run plan (t, [])) :=
    alike.chronicled.answers_run (fun q _ _ ongoing => ongoing.formatted q) Ongoing.ended plan before
  have ended := answers.states
  refine ⟨?_, ?_, ?_, fun kept kept' => ?_⟩
  · have same : called (c.history plan s) = called (d.history plan t) := by
      rw [history, history, called, called, List.filterMap_reverse, List.filterMap_reverse]
      exact congrArg List.reverse ended.called
    rw [events_eq_map_history, events_eq_map_history, List.filterMap_map, List.filterMap_map]
    exact same
  · rw [run_eq_chronicled c, run_eq_chronicled d]
    exact answers.mapError_eq
  · rw [settled, settled, history, history, run_eq_chronicled c, run_eq_chronicled d]
    exact agrees ended.related
  · have formatted (q : CommandRequest) {s : σ} {t : τ} (related : R s t) :
        stored (c.format q s).2 = stored' (d.format q t).2 := by
      rw [kept, kept', agrees related]
    exact (alike.answers_run formatted agrees plan related).states

end Collaborators

namespace Rehearsal

def heard (a : Except String LintOutput) : Except String (List Diagnostic) :=
  a.map fun output => Diagnostic.extract output.stderr

/-- What counts of a script's explanation of a code. -/
def Script.text (script : Script) (code : String) : Option String :=
  ((script.explanations.lookup code).getD (.ok none)).toOption.join

/-- Scripts that differ only in what is tried: format passes and journals are arbitrary. -/
structure Script.Like (a b : Script) : Prop where
  source : a.source = b.source
  path : a.path = b.path
  lints : a.lints.map heard = b.lints.map heard
  lintAfter : heard a.lintAfter = heard b.lintAfter
  repairs : a.repairs = b.repairs
  echo : a.echo = b.echo
  writes : a.writes = b.writes
  text : ∀ code, a.text code = b.text code

/-- Stages with the same source and the same numbers of calls. Their journals are not compared. -/
structure Stage.Like (s t : Stage) : Prop where
  source : s.source = t.source
  lints : s.lints = t.lints
  repairs : s.repairs = t.repairs
  writes : s.writes = t.writes

theorem answers_of_heard {R : Stage → Stage → Prop} {a b : Except String LintOutput} {s t : Stage}
    (same : heard a = heard b) (related : R s t) :
    Collaborators.Answers (id : String → String) (fun output => Diagnostic.extract output.stderr) R
      (a, s) (b, t) := by
  rcases a with e | output <;> rcases b with f | output'
  · exact .failed (Except.error.inj same) related
  · cases same
  · cases same
  · exact .given (Except.ok.inj same) related

theorem answers_of_eq {α : Type} {R : Stage → Stage → Prop} {a b : Except String α} {s t : Stage}
    (same : a = b) (related : R s t) :
    Collaborators.Answers (id : String → String) id R (a, s) (b, t) := by
  subst same
  rcases a with e | a
  · exact .failed rfl related
  · exact .given rfl related

theorem Script.Like.heard_lint {a b : Script} (like : a.Like b) (n : Nat) :
    heard ((a.lints[n]?).getD a.lintAfter) = heard ((b.lints[n]?).getD b.lintAfter) := by
  have same : (a.lints[n]?).map heard = (b.lints[n]?).map heard := by
    rw [← List.getElem?_map, ← List.getElem?_map, like.lints]
  calc heard ((a.lints[n]?).getD a.lintAfter)
      = ((a.lints[n]?).map heard).getD (heard a.lintAfter) := (Option.getD_map ..).symm
    _ = ((b.lints[n]?).map heard).getD (heard b.lintAfter) := by rw [same, like.lintAfter]
    _ = heard ((b.lints[n]?).getD b.lintAfter) := Option.getD_map ..

theorem Script.Like.alike {a b : Script} (like : a.Like b) :
    Collaborators.Alike id Stage.Like a.collaborators b.collaborators where
  path := like.path
  read related := answers_of_eq like.source related
  write text s t related := by
    have answer : a.write s.writes = b.write t.writes := by
      rw [Script.write, Script.write, like.writes, related.writes]
    refine answers_of_eq answer ⟨?_, related.lints, related.repairs, ?_⟩
    · simp only [answer, related.source]
    · simp only [related.writes]
  lint q s t related := by
    refine answers_of_heard ?_ ⟨related.source, ?_, related.repairs, related.writes⟩
    · rw [related.lints]
      exact like.heard_lint t.lints
    · simp only [related.lints]
  explain code q s t related := ⟨like.text code, related⟩
  repair r s t related := by
    refine answers_of_eq ?_ ⟨related.source, related.lints, ?_, related.writes⟩
    · rw [Script.repair, Script.repair, like.repairs, like.echo, related.repairs]
    · simp only [related.repairs]
  report _ related := related
  record _ related := ⟨related.source, related.lints, related.repairs, related.writes⟩

/-- A rehearsal with a failing lookup, a failing format pass and a journal. -/
def disturbed : Script where
  source := .ok "let x: i32 = \"a\";\n"
  lints := [.ok ⟨"checked 1 crate", "error[E0308]: mismatched\n--> a:1:14\n|\n", false⟩,
    .ok ⟨"", cleanReport, true⟩]
  repairs := [.ok (handOver "let x: i32 = 1;\n")]
  explanations := [("E0308", .error "timed out")]
  format := .error "rustfmt not found"
  iterations := some ⟨"log"⟩

/-- The same rehearsal with an unexplained code, other lint output and no journal. -/
def undisturbed : Script where
  source := .ok "let x: i32 = \"a\";\n"
  lints := [.ok ⟨"", "error[E0308]: mismatched\n--> a:1:14\n|\naborting\n", true⟩,
    .ok ⟨"", "", false⟩]
  repairs := [.ok (handOver "let x: i32 = 1;\n")]

theorem disturbed_like : disturbed.Like undisturbed where
  source := rfl
  path := rfl
  lints := by
    have found : Diagnostic.extract "error[E0308]: mismatched\n--> a:1:14\n|\n" =
        Diagnostic.extract "error[E0308]: mismatched\n--> a:1:14\n|\naborting\n" := by
      decide +kernel
    have clean : Diagnostic.extract cleanReport = Diagnostic.extract "" := by decide +kernel
    simp only [disturbed, undisturbed, List.map, heard, Except.map, found, clean]
  lintAfter := rfl
  repairs := rfl
  echo := rfl
  writes := rfl
  text code := by
    rw [Script.text, Script.text, disturbed, undisturbed]
    rw [List.lookup_cons, List.lookup_nil]
    cases code == "E0308" <;> rfl

end Rehearsal

/-- Where its journal should be the disturbed rehearsal finds a file. -/
theorem Collaborators.run_alike_disturbed :
    let a := Rehearsal.disturbed
    let b := Rehearsal.undisturbed
    let s := a.stage ⟨[(["log"], .file [])]⟩
    let t := b.stage {}
    let plan : LoopPlan := ⟨⟨⟨"."⟩, 5000, 10000⟩, 3⟩
    Alike id Rehearsal.Stage.Like a.collaborators b.collaborators ∧ s.Like t ∧
      (a.collaborators.events plan s).filterMap Event.call? =
        (b.collaborators.events plan t).filterMap Event.call? ∧
      (a.collaborators.run plan s).1.mapError (·.map id) =
        (b.collaborators.run plan t).1.mapError (·.map id) ∧
      (a.collaborators.run plan s).2.source = (b.collaborators.run plan t).2.source := by
  intro a b s t plan
  have alike : Alike id Rehearsal.Stage.Like a.collaborators b.collaborators :=
    Rehearsal.disturbed_like.alike
  have like : s.Like t := ⟨rfl, rfl, rfl, rfl⟩
  obtain ⟨calls, verdict, -, stored⟩ := run_alike alike Rehearsal.Stage.Like.source plan like
  exact ⟨alike, like, calls, verdict, stored (fun _ _ => rfl) (fun _ _ => rfl)⟩

end LintRepair
