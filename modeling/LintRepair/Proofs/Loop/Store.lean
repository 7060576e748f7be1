import LintRepair.Loop.Rehearsal
import LintRepair.Proofs.Loop.Round

/-!
What a run leaves in the store: the text that the last completed lint was run against. The one
exception is a failed lint after a repair when writing that text back fails too; then the repair's
text stays.
-/
namespace LintRepair

/-- The stored text when a lint was called that completed. -/
def Moment.linted? {σ ε : Type} (stored : σ → String) (m : Moment σ ε) : Option String :=
  match m.event with
  | .lint _ (.ok _) => some (stored m.before)
  | _ => none

/-- The repair that a call was answered with. -/
def Moment.repair? {σ ε : Type} (m : Moment σ ε) : Option Repair :=
  match m.event with
  | .repair _ (.ok r) => some r
  | _ => none

/-- The text that the last completed lint was run against, or `first` before any. -/
def linted {σ ε : Type} (stored : σ → String) (first : String) (ms : List (Moment σ ε)) : String :=
  (ms.filterMap (·.linted? stored)).getLast?.getD first

/-- The state before a closing format pass, else the state given. -/
def beforeFormat {σ ε : Type} (ms : List (Moment σ ε)) (t : σ) : σ :=
  match ms.getLast? with
  | some ⟨before, .format _⟩ => before
  | _ => t

namespace Collaborators
variable {σ ε : Type}

/-- The state that a run leaves, as it was before the format pass if there was one. -/
def settled (c : Collaborators σ ε) (plan : LoopPlan) (s : σ) : σ :=
  beforeFormat (c.history plan s) (c.run plan s).2

/-- A write that succeeds replaces the stored text, one that fails leaves it, and nobody else
changes it. A format pass may do as it likes. -/
structure Keeps (c : Collaborators σ ε) (stored : σ → String) : Prop where
  written : ∀ {text s t}, c.write text s = (.ok (), t) → stored t = text
  unwritten : ∀ {text s e t}, c.write text s = (.error e, t) → stored t = stored s
  lint : ∀ q s, stored (c.lint q s).2 = stored s
  explain : ∀ code q s, stored (c.explain code q s).2 = stored s
  repair : ∀ r s, stored (c.repair r s).2 = stored s
  report : ∀ cycle s, stored (c.report cycle s) = stored s
  record : ∀ cycle s, stored (c.record cycle s) = stored s

theorem keeps_rehearsal (script : Rehearsal.Script) :
    script.collaborators.Keeps Rehearsal.Stage.source where
  written {text s t} h := by
    simp only [Rehearsal.Script.collaborators, Prod.mk.injEq] at h
    rw [← h.2, h.1]
  unwritten {text s e t} h := by
    simp only [Rehearsal.Script.collaborators, Prod.mk.injEq] at h
    rw [← h.2, h.1]
  lint _ _ := rfl
  explain _ _ _ := rfl
  repair _ _ := rfl
  report _ _ := rfl
  record _ _ := rfl

/-- How progress and store stand between two passes: the store holds the version that is linted
next, the committed version is the one linted last, and a candidate is the last repair. -/
structure Stands (stored : σ → String) (first : String) (q : Progress) (t : σ)
    (ms : List (Moment σ ε)) : Prop where
  current : stored t = q.current.text
  committed : linted stored first ms = q.committed.text
  candidate : ∀ v, q.candidate = some v →
    ∃ r, (ms.filterMap Moment.repair?).getLast? = some r ∧ r.source = v.text

variable {c : Collaborators σ ε} {stored : σ → String} {plan : LoopPlan} {p q q' : Progress}
variable {first text : String} {left n : Nat} {s s₁ t t' u : σ} {ms new ends : List (Moment σ ε)}

theorem linted_append_of_nil (h : new.filterMap (·.linted? stored) = []) :
    linted stored first (ms ++ new) = linted stored first ms := by
  rw [linted, List.filterMap_append, h, List.append_nil, linted]

theorem linted_append_of_once {x : String} (h : new.filterMap (·.linted? stored) = [x]) :
    linted stored first (ms ++ new) = x := by
  rw [linted, List.filterMap_append, h, List.getLast?_concat, Option.getD_some]

theorem linted?_of_mem_asked {known : Lookups} {q : CommandRequest} {ds : List Diagnostic}
    {m : Moment σ ε} (hm : m ∈ c.asked q known ds s) : m.linted? stored = none := by
  obtain ⟨code, a, he⟩ := event_of_mem_asked hm
  simp only [Moment.linted?, he]

theorem Keeps.explanations (kept : c.Keeps stored) (q : CommandRequest) (known : Lookups)
    (ds : List Diagnostic) (s : σ) : stored (c.explanations q known ds s).2.2 = stored s :=
  explanations_preserves (P := fun u => stored u = stored s)
    (fun code q u hu => (kept.explain code q u).trans hu) q known ds rfl

/-- Up to the repair request the store stays as it is, and its text was linted once. -/
theorem Inquiry.keeps {pass : Pass} {known : List Explanation} {lookups : Lookups}
    (h : Inquiry c plan p s pass ms known lookups t) (kept : c.Keeps stored) :
    stored t = stored s ∧ ms.filterMap (·.linted? stored) = [stored s] := by
  cases h with
  | @found lint s₁ t known lookups ran found explained =>
    constructor
    · have hl := kept.lint plan.request s
      have hx := kept.explanations plan.request p.lookups (p.pass lint).diagnostics
        (c.report ⟨p.pass lint, none⟩ s₁)
      rw [ran] at hl
      rw [explained, kept.report] at hx
      exact hx.trans hl
    · have none_asked : (c.asked plan.request p.lookups (p.pass lint).diagnostics
          (c.report ⟨p.pass lint, none⟩ s₁)).filterMap (·.linted? stored) = [] :=
        List.filterMap_eq_nil_iff.mpr fun m hm => linted?_of_mem_asked hm
      rw [List.filterMap_cons, List.filterMap_cons, none_asked]
      rfl

/-- The text of an inquiry is the last one that was linted, until another lint. -/
theorem Inquiry.linted_append {pass : Pass} {known : List Explanation} {lookups : Lookups}
    {inquired : List (Moment σ ε)} (inquiry : Inquiry c plan p s pass inquired known lookups t)
    (kept : c.Keeps stored) (quiet : new.filterMap (·.linted? stored) = []) :
    linted stored first (ms ++ (inquired ++ new)) = stored s := by
  refine linted_append_of_once ?_
  rw [List.filterMap_append, (inquiry.keeps kept).2, quiet, List.append_nil]

theorem Stands.start (h : stored s = first) :
    Stands stored first (.start first) s ([] : List (Moment σ ε)) where
  current := h
  committed := rfl
  candidate _ hv := by simp [Progress.start] at hv

theorem Stands.round (stands : Stands stored first q t ms) (kept : c.Keeps stored)
    (round : Round c plan q t new q' t') : Stands stored first q' t' (ms ++ new) := by
  cases round with
  | @mended pass inquired known lookups r s₂ s₃ s₄ inquiry repaired written =>
    exact {
      current := by
        rw [kept.report, kept.record, kept.written written]
        rfl
      committed := by
        rw [inquiry.linted_append kept rfl, stands.current]
        rfl
      candidate := by
        intro v hv
        refine ⟨r, by simp [List.filterMap_cons, Moment.repair?], ?_⟩
        simp only [Progress.repaired, Option.some.injEq] at hv
        rw [← hv]
        rfl }

theorem Stands.rounds (stands : Stands stored first p s ([] : List (Moment σ ε)))
    (kept : c.Keeps stored)
    (rounds : Rounds c plan n p s ms q t) : Stands stored first q t ms := by
  induction rounds with
  | refl => exact stands
  | tail before last ih => exact (ih stands).round kept last

/-- A run that is in step and ends has stored what was linted last, unless the text could not be
put back. -/
theorem Stands.ending {answer : Except (LoopError ε) LoopOutcome}
    (stands : Stands stored first q t ms) (kept : c.Keeps stored)
    (ending : Ending c plan left q t ends answer u) :
    (stored (beforeFormat ends u) = linted stored first (ms ++ ends) ∧
        ∀ f, answer ≠ .error (.restore f)) ∨
      ∃ s₁ s₂ e f r, ends = [⟨s₁, .lint plan.request (.error e)⟩,
          ⟨s₂, .write (linted stored first ms) (.error f)⟩] ∧
        (ms.filterMap Moment.repair?).getLast? = some r ∧
        answer = .error (.restore f) ∧ stored u = r.source := by
  have lint_keeps {a : Except ε LintOutput} {s₁ : σ} (h : c.lint plan.request t = (a, s₁)) :
      stored s₁ = stored t := by
    have hl := kept.lint plan.request t
    rwa [h] at hl
  cases ending with
  | unlinted ran settled =>
    refine .inl ⟨?_, nofun⟩
    rw [linted_append_of_nil rfl, stands.committed]
    simp [beforeFormat, lint_keeps ran, stands.current, Progress.current, settled]
  | restored ran pending written =>
    refine .inl ⟨?_, nofun⟩
    rw [linted_append_of_nil rfl, stands.committed]
    exact kept.written written
  | @unrestored _ _ v _ s₁ s₂ e f ran pending unwritten =>
    obtain ⟨r, hr, hv⟩ := stands.candidate v pending
    refine .inr ⟨t, s₁, e, f, r, by rw [stands.committed], hr, rfl, ?_⟩
    rw [kept.unwritten unwritten, lint_keeps ran, stands.current, Progress.current, pending, hv]
    rfl
  | clean ran clean formatted =>
    refine .inl ⟨?_, nofun⟩
    rw [linted_append_of_once rfl]
    simp [beforeFormat, kept.report, kept.record, lint_keeps ran]
  | spent ran found =>
    refine .inl ⟨?_, nofun⟩
    rw [linted_append_of_once rfl]
    simp [beforeFormat, kept.report, kept.record, lint_keeps ran]
  | @unrepaired _ _ pass inquired known lookups _ s₂ s₃ e inquiry unrepaired =>
    refine .inl ⟨?_, nofun⟩
    have same := (inquiry.keeps kept).1
    have hr := kept.repair ⟨c.path, q.current.text, pass.diagnostics, known⟩ s₂
    rw [unrepaired] at hr
    rw [inquiry.linted_append kept rfl]
    simpa [beforeFormat] using hr.trans same
  | @unwritten _ _ pass inquired known lookups r _ s₂ s₃ s₄ e inquiry repaired unwritten =>
    refine .inl ⟨?_, nofun⟩
    have same := (inquiry.keeps kept).1
    have hr := kept.repair ⟨c.path, q.current.text, pass.diagnostics, known⟩ s₂
    rw [repaired] at hr
    rw [inquiry.linted_append kept rfl]
    simpa [beforeFormat] using (kept.unwritten unwritten).trans (hr.trans same)

/-- Only the last call decides whether there was a format pass. -/
theorem beforeFormat_append (h : ends ≠ []) : beforeFormat (ms ++ ends) u = beforeFormat ends u := by
  simp only [beforeFormat, List.getLast?_append, List.getLast?_eq_some_getLast h, Option.some_or]

theorem Ending.ne_nil {answer : Except (LoopError ε) LoopOutcome}
    (ending : Ending c plan left q t ends answer u) : ends ≠ [] := by
  cases ending <;> simp

/-- After a read that succeeded a run leaves in the store the text that the last completed lint was
run against, and the text read if no lint completed. Otherwise it ended on a failed lint after a
repair and could not write that text back; then its error says so and the repair is still stored. -/
theorem stored_settled (plan : LoopPlan) (kept : c.Keeps stored)
    (read : c.read s = (.ok text, s₁)) (held : stored s₁ = text) :
    (stored (c.settled plan s) = linted stored text (c.history plan s) ∧
        ∀ f, (c.run plan s).1 ≠ .error (.restore f)) ∨
      ∃ ms s₂ s₃ e f r, c.history plan s = ms ++ [⟨s₂, .lint plan.request (.error e)⟩,
          ⟨s₃, .write (linted stored text ms) (.error f)⟩] ∧
        (ms.filterMap Moment.repair?).getLast? = some r ∧
        (c.run plan s).1 = .error (.restore f) ∧
        (∀ layers, (LoopError.restore f).layers layers =
          .text "restore committed source" :: layers f) ∧
        stored (c.run plan s).2 = r.source := by
  rw [settled]
  refine run_cases c plan s ?_ ?_
  · intro e t unread
    simp [unread] at read
  · intro text' n q s₁' t ms ends answer u read' few rounds ending
    rw [read] at read'
    obtain ⟨rfl, rfl⟩ : text = text' ∧ s₁ = s₁' := by simpa using read'
    have stands := (Stands.start held).rounds kept rounds
    have unread : linted stored text (⟨s, .read (.ok text)⟩ :: ms) = linted stored text ms := by
      rw [linted, List.filterMap_cons_none rfl, linted]
    rw [← List.cons_append, beforeFormat_append ending.ne_nil]
    rcases stands.ending kept ending with ⟨same, restored⟩ | ⟨s₂, s₃, e, f, r, he, hr, ha, hs⟩
    · left
      rw [linted, List.cons_append, List.filterMap_cons_none rfl, ← linted]
      exact ⟨same, restored⟩
    · right
      refine ⟨_, s₂, s₃, e, f, r, by rw [unread, he], ?_, ha, fun _ => rfl, hs⟩
      rwa [List.filterMap_cons_none rfl]

/-- A rehearsal whose second lint fails and whose text can not be put back then. -/
def faltering : Rehearsal.Script where
  source := .ok "let x: i32 = \"a\";\n"
  lints := [.ok ⟨"", "error[E0308]: mismatched\n--> a:1:14\n|\n", false⟩, .error "timed out"]
  repairs := [.ok (Rehearsal.handOver "let x: i32 = 1;\n")]
  writes := [none, some "disk full"]

theorem stored_settled_faltering :
    let c := faltering.collaborators
    let s := faltering.stage {}
    let plan : LoopPlan := ⟨⟨⟨"."⟩, 5000, 10000⟩, 3⟩
    c.Keeps Rehearsal.Stage.source ∧ c.read s = (.ok "let x: i32 = \"a\";\n", s) ∧
      s.source = "let x: i32 = \"a\";\n" ∧
      ∃ ms s₂ s₃ e f r, c.history plan s = ms ++ [⟨s₂, .lint plan.request (.error e)⟩,
          ⟨s₃, .write (linted Rehearsal.Stage.source "let x: i32 = \"a\";\n" ms) (.error f)⟩] ∧
        (ms.filterMap Moment.repair?).getLast? = some r ∧
        (c.run plan s).1 = .error (.restore f) ∧
        (∀ layers, (LoopError.restore f).layers layers =
          .text "restore committed source" :: layers f) ∧
        (c.run plan s).2.source = r.source := by
  intro c s plan
  have kept : c.Keeps Rehearsal.Stage.source := keeps_rehearsal faltering
  have read : c.read s = (.ok "let x: i32 = \"a\";\n", s) := rfl
  refine ⟨kept, read, rfl, ?_⟩
  rcases stored_settled plan kept read rfl with ⟨same, -⟩ | h
  · exact absurd same (by decide +kernel)
  · exact h

end Collaborators
end LintRepair
