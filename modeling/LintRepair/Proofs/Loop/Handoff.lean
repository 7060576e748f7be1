import LintRepair.Loop.Rehearsal
import LintRepair.Proofs.Loop.Store
import LintRepair.Proofs.Loop.Verdict

/-!
What a run hands on from pass to pass. The source is read once; from then on the loop goes by its
own copies, and a candidate becomes the committed version only when it is linted. As long as the
store keeps what the loop writes, these copies never lag behind it: every lint is run against the
text found at the start or the repair made last, and what is told and asked after it is about that
text and that lint's output.
-/
namespace LintRepair

def Event.isRead {ε : Type} : Event ε → Bool
  | .read _ => true
  | _ => false

def Event.request? {ε : Type} : Event ε → Option RepairRequest
  | .repair r _ => some r
  | _ => none

section Throughout
variable {α : Type}

/-- Every element of a list stands in this relation to those before it, the first ones being
`earlier`. -/
def Throughout (P : List α → α → Prop) (earlier : List α) : List α → Prop
  | [] => True
  | m :: later => P earlier m ∧ Throughout P (earlier ++ [m]) later

variable {P : List α → α → Prop} {earlier later ms new : List α} {m : α}

theorem throughout_append :
    Throughout P earlier (ms ++ new) ↔
      Throughout P earlier ms ∧ Throughout P (earlier ++ ms) new := by
  induction ms generalizing earlier with
  | nil => simp [Throughout]
  | cons m ms ih =>
    simp only [List.cons_append, Throughout, ih, List.append_assoc, List.nil_append]
    exact and_assoc.symm

theorem throughout_of_forall (h : ∀ m ∈ ms, ∀ earlier, P earlier m) : Throughout P earlier ms := by
  induction ms generalizing earlier with
  | nil => trivial
  | cons m ms ih =>
    exact ⟨h m List.mem_cons_self earlier, ih fun x hx => h x (List.mem_cons_of_mem m hx)⟩

theorem Throughout.split (h : Throughout P [] (earlier ++ m :: later)) : P earlier m := by
  rw [throughout_append] at h
  exact h.2.1

end Throughout

section Calls
variable {σ ε : Type}

/-- The lints among some calls, in their order. -/
def lints (ms : List (Moment σ ε)) : List (Moment σ ε) := ms.filter (·.event.isLint)

/-- The text found at the start and behind it the sources of the repairs among some calls. -/
def texts (first : String) (ms : List (Moment σ ε)) : List String :=
  first :: (ms.filterMap Moment.repair?).map Repair.source

/-- The last lint among some calls: `n` lints were called before it, it was called in the state `t`,
and it completed with this output. -/
def LastLint (ms : List (Moment σ ε)) (n : Nat) (t : σ) (output : LintOutput) : Prop :=
  ∃ before q, lints ms = before ++ [⟨t, .lint q (.ok output)⟩] ∧ before.length = n

/-- What a call must be about, given the calls before it. A pass is numbered from zero by the lints
before its own, as the versions of the source are. The store is read by the first call only. -/
def Accords (c : Collaborators σ ε) (stored : σ → String) (first : String)
    (earlier : List (Moment σ ε)) (m : Moment σ ε) : Prop :=
  match m.event with
  | .read _ => earlier = []
  | .lint _ _ => (texts first earlier)[(lints earlier).length]? = some (stored m.before)
  | .report cycle =>
    ∃ t output, LastLint earlier cycle.pass.version.toNat t output ∧
      cycle.pass.diagnostics = Diagnostic.extract output.stderr
  | .repair r _ =>
    ∃ n t output, LastLint earlier n t output ∧ r.path = c.path ∧ r.source = stored t ∧
      r.diagnostics = Diagnostic.extract output.stderr
  | _ => True

variable {ms new : List (Moment σ ε)} {n : Nat} {t : σ} {output : LintOutput} {first : String}

theorem lints_append : lints (ms ++ new) = lints ms ++ lints new := List.filter_append ..

theorem texts_append :
    texts first (ms ++ new) =
      texts first ms ++ (new.filterMap Moment.repair?).map Repair.source := by
  rw [texts, List.filterMap_append, List.map_append, ← List.cons_append, ← texts]

theorem LastLint.append (h : LastLint ms n t output) (quiet : lints new = []) :
    LastLint (ms ++ new) n t output := by
  obtain ⟨before, q, last, count⟩ := h
  exact ⟨before, q, by rw [lints_append, quiet, List.append_nil, last], count⟩

theorem lastLint_append {q : CommandRequest} (count : (lints ms).length = n)
    (once : lints new = [⟨t, .lint q (.ok output)⟩]) : LastLint (ms ++ new) n t output :=
  ⟨lints ms, q, by rw [lints_append, once], count⟩

end Calls

/-- What the calls of a run hand on. Before each call `earlier` are the calls made by then. -/
structure Handoff {σ ε : Type} (c : Collaborators σ ε) (stored : σ → String) (first : String)
    (calls : List (Moment σ ε)) : Prop where
  /-- The first lint is run against the text found at the start, the next ones each against the
  source of the repair that was the answer to the pass before. -/
  linted : ∀ {earlier later s q a}, calls = earlier ++ ⟨s, .lint q a⟩ :: later →
    (texts first earlier)[(lints earlier).length]? = some (stored s)
  /-- A report gives the number of the version that was linted last and what that lint found. -/
  reported : ∀ {earlier later s cycle}, calls = earlier ++ ⟨s, .report cycle⟩ :: later →
    ∃ t output, LastLint earlier cycle.pass.version.toNat t output ∧
      cycle.pass.diagnostics = Diagnostic.extract output.stderr
  /-- A repair request gives the text that was stored at the last lint and what that lint found. -/
  requested : ∀ {earlier later s r a}, calls = earlier ++ ⟨s, .repair r a⟩ :: later →
    ∃ n t output, LastLint earlier n t output ∧ r.path = c.path ∧ r.source = stored t ∧
      r.diagnostics = Diagnostic.extract output.stderr
  read_once : calls.countP (·.event.isRead) = 1

namespace Collaborators
variable {σ ε : Type}

/-- A write that succeeds is stored, and neither the read nor the telling and keeping of a cycle
changes the store. No other calls stand between a write, or the start, and the next lint. -/
structure Stores (c : Collaborators σ ε) (stored : σ → String) : Prop where
  read : ∀ s, stored (c.read s).2 = stored s
  written : ∀ {text s t}, c.write text s = (.ok (), t) → stored t = text
  report : ∀ cycle s, stored (c.report cycle s) = stored s
  record : ∀ cycle s, stored (c.record cycle s) = stored s

theorem stores_rehearsal (script : Rehearsal.Script) :
    script.collaborators.Stores Rehearsal.Stage.source where
  read _ := rfl
  written := (keeps_rehearsal script).written
  report _ _ := rfl
  record _ _ := rfl

/-- How the loop's copies stand between two passes, when `n` passes were made: the store holds the
version that is linted next, which is the text behind `n` others and has the number `n`. -/
structure Follows (c : Collaborators σ ε) (stored : σ → String) (first : String) (n : Nat)
    (q : Progress) (t : σ) (ms : List (Moment σ ε)) : Prop where
  linted : (lints ms).length = n
  repaired : (ms.filterMap Moment.repair?).length = n
  current : (texts first ms)[n]? = some q.current.text
  number : q.current.number.toNat = n
  held : stored t = q.current.text
  accords : Throughout (Accords c stored first) [] ms

variable {c : Collaborators σ ε} {stored : σ → String} {plan : LoopPlan} {p q q' : Progress}
variable {first : String} {left n : Nat} {s t t' u : σ} {ms new ends : List (Moment σ ε)}

theorem lints_asked (c : Collaborators σ ε) (q : CommandRequest) (known : Lookups)
    (ds : List Diagnostic) (s : σ) : lints (c.asked q known ds s) = [] := by
  rw [lints, List.filter_eq_nil_iff]
  intro m hm
  obtain ⟨code, a, he⟩ := event_of_mem_asked hm
  simp [he, Event.isLint]

theorem repairs_asked (c : Collaborators σ ε) (q : CommandRequest) (known : Lookups)
    (ds : List Diagnostic) (s : σ) : (c.asked q known ds s).filterMap Moment.repair? = [] := by
  rw [List.filterMap_eq_nil_iff]
  intro m hm
  obtain ⟨code, a, he⟩ := event_of_mem_asked hm
  simp only [Moment.repair?, he]

theorem reads_eq_zero (accords : Throughout (Accords c stored first) ms new) (begun : ms ≠ []) :
    new.countP (·.event.isRead) = 0 := by
  induction new generalizing ms with
  | nil => rfl
  | cons m new ih =>
    obtain ⟨now, later⟩ := accords
    rw [List.countP_cons_of_neg, ih later (by simp)]
    intro reads
    obtain ⟨before, event⟩ := m
    cases event with
    | read a => exact begun now
    | _ => cases reads

theorem accords_asked (c : Collaborators σ ε) (q : CommandRequest) (known : Lookups)
    (ds : List Diagnostic) (s : σ) :
    Throughout (Accords c stored first) ms (c.asked q known ds s) := by
  refine throughout_of_forall fun m hm earlier => ?_
  obtain ⟨code, a, he⟩ := event_of_mem_asked hm
  simp only [Accords, he]

section Inquiry
variable {pass : Pass} {known : List Explanation} {lookups : Lookups}
variable {inquired : List (Moment σ ε)}

theorem Inquiry.lints_eq (h : Inquiry c plan p s pass inquired known lookups t) :
    ∃ output, lints inquired = [⟨s, .lint plan.request (.ok output)⟩] ∧ pass = p.pass output := by
  cases h with
  | @found lint s₁ t known lookups ran found explained =>
    refine ⟨lint, ?_, rfl⟩
    have quiet := lints_asked c plan.request p.lookups (p.pass lint).diagnostics
      (c.report ⟨p.pass lint, none⟩ s₁)
    rw [lints] at quiet ⊢
    rw [List.filter_cons_of_pos rfl, List.filter_cons_of_neg (by simp [Event.isLint]), quiet]

theorem Inquiry.repairs_eq (h : Inquiry c plan p s pass inquired known lookups t) :
    inquired.filterMap Moment.repair? = [] := by
  cases h with
  | found ran found explained =>
    rw [List.filterMap_cons_none rfl, List.filterMap_cons_none rfl, repairs_asked]

end Inquiry

/-- A pass is told as it was: the version by its number, and what the lint found. -/
theorem Follows.accords_report (follows : Follows c stored first n q t ms) {repair : Option Repair}
    {earlier : List (Moment σ ε)} {output : LintOutput} (last : LastLint earlier n t output)
    (s : σ) : Accords c stored first earlier ⟨s, .report ⟨q.pass output, repair⟩⟩ := by
  refine ⟨t, output, ?_, rfl⟩
  show LastLint earlier q.current.number.toNat t output
  rw [follows.number]
  exact last

theorem Follows.accords_lint (follows : Follows c stored first n q t ms) (a : Except ε LintOutput) :
    Accords c stored first ms ⟨t, .lint plan.request a⟩ := by
  show (texts first ms)[(lints ms).length]? = some (stored t)
  rw [follows.linted, follows.current, follows.held]

theorem Follows.accords_repair (follows : Follows c stored first n q t ms)
    {earlier : List (Moment σ ε)} {output : LintOutput} (last : LastLint earlier n t output)
    (known : List Explanation) (a : Except ε Repair) (s : σ) :
    Accords c stored first earlier
      ⟨s, .repair ⟨c.path, q.current.text, (q.pass output).diagnostics, known⟩ a⟩ :=
  ⟨n, t, output, last, rfl, follows.held.symm, rfl⟩

/-- A lint, a report and the lookups after them accord with the calls before. -/
theorem Follows.inquiry {pass : Pass} {known : List Explanation} {lookups : Lookups}
    {inquired : List (Moment σ ε)} (follows : Follows c stored first n q t ms)
    (h : Inquiry c plan q t pass inquired known lookups u) :
    Throughout (Accords c stored first) ms inquired := by
  cases h with
  | @found lint s₁ u known lookups ran found explained =>
    have last : LastLint (ms ++ [⟨t, .lint plan.request (.ok lint)⟩]) n t lint :=
      lastLint_append follows.linted rfl
    exact ⟨follows.accords_lint _, follows.accords_report last _, accords_asked ..⟩

theorem Follows.start (read : c.read s = (.ok first, t)) (stores : c.Stores stored)
    (told : stored s = first) :
    Follows c stored first 0 (.start first) t [⟨s, .read (.ok first)⟩] where
  linted := rfl
  repaired := rfl
  current := rfl
  number := rfl
  held := by
    have kept := stores.read s
    rw [read] at kept
    exact kept.trans told
  accords := ⟨rfl, trivial⟩

/-- A round keeps the copies in step with the store, as long as the number of versions fits. -/
theorem Follows.round (follows : Follows c stored first n q t ms) (stores : c.Stores stored)
    (fits : n + 1 < UInt32.size) (round : Round c plan q t new q' t') :
    Follows c stored first (n + 1) q' t' (ms ++ new) := by
  cases round with
  | @mended pass inquired known lookups r s₂ s₃ s₄ inquiry repaired written =>
    obtain ⟨output, once, rfl⟩ := inquiry.lints_eq
    have last : LastLint (ms ++ inquired) n t output := lastLint_append follows.linted once
    have one : (texts first ms).length = n + 1 := by
      rw [texts, List.length_cons, List.length_map, follows.repaired]
    exact {
      linted := by
        rw [lints_append, lints_append, once, List.length_append, follows.linted]
        rfl
      repaired := by
        rw [List.filterMap_append, List.filterMap_append, inquiry.repairs_eq, List.length_append,
          follows.repaired]
        rfl
      current := by
        rw [texts_append, List.filterMap_append, inquiry.repairs_eq, ← one]
        exact List.getElem?_concat_length
      number := by
        show (q.current.number + 1).toNat = n + 1
        rw [UInt32.toNat_add, follows.number]
        exact Nat.mod_eq_of_lt fits
      held := by
        rw [stores.report, stores.record, stores.written written]
        rfl
      accords := by
        rw [throughout_append, throughout_append]
        refine ⟨follows.accords, follows.inquiry inquiry, ?_⟩
        refine ⟨follows.accords_repair last known _ s₂, trivial, trivial, ?_, trivial⟩
        exact follows.accords_report (((last.append rfl).append rfl).append rfl) _ }

theorem Follows.rounds (follows : Follows c stored first 0 p s ms) (stores : c.Stores stored)
    (rounds : Rounds c plan n p s new q t) (fits : n < UInt32.size) :
    Follows c stored first n q t (ms ++ new) := by
  induction rounds with
  | refl => rwa [List.append_nil]
  | tail before last ih =>
    rw [← List.append_assoc]
    exact (ih follows (Nat.lt_of_succ_lt fits)).round stores fits last

theorem Follows.ending {answer : Except (LoopError ε) LoopOutcome}
    (follows : Follows c stored first n q t ms) (ending : Ending c plan left q t ends answer u) :
    Throughout (Accords c stored first) ms ends := by
  have linted {lint : LintOutput} :
      LastLint (ms ++ [⟨t, .lint plan.request (.ok lint)⟩]) n t lint :=
    lastLint_append follows.linted rfl
  cases ending with
  | unlinted ran settled => exact ⟨follows.accords_lint _, trivial⟩
  | restored ran pending written => exact ⟨follows.accords_lint _, trivial, trivial⟩
  | unrestored ran pending unwritten => exact ⟨follows.accords_lint _, trivial, trivial⟩
  | clean ran clean formatted =>
    exact ⟨follows.accords_lint _, trivial, follows.accords_report (linted.append rfl) _, trivial,
      trivial⟩
  | spent ran found =>
    exact ⟨follows.accords_lint _, follows.accords_report linted _, trivial, trivial⟩
  | unrepaired _ inquiry unrepaired =>
    obtain ⟨output, once, rfl⟩ := inquiry.lints_eq
    have last := lastLint_append follows.linted once
    rw [throughout_append]
    exact ⟨follows.inquiry inquiry, follows.accords_repair last _ _ _, trivial⟩
  | unwritten _ inquiry repaired unwritten =>
    obtain ⟨output, once, rfl⟩ := inquiry.lints_eq
    have last := lastLint_append follows.linted once
    rw [throughout_append]
    exact ⟨follows.inquiry inquiry, follows.accords_repair last _ _ _, trivial, trivial⟩

/-- Every call of a run accords with the calls before it. -/
theorem accords_history (plan : LoopPlan) (stores : c.Stores stored)
    (told : ∀ text, (c.read s).1 = .ok text → stored s = text) :
    Throughout (Accords c stored (stored s)) [] (c.history plan s) := by
  refine run_cases c plan s ?_ ?_
  · exact fun e t unread => ⟨rfl, trivial⟩
  · intro text n q s₁ t ms ends answer u read few rounds ending
    have fits : n < UInt32.size := Nat.lt_of_le_of_lt few plan.maxIterations.toNat_lt
    obtain rfl : stored s = text := told text (by rw [read])
    have follows := (Follows.start read stores rfl).rounds stores rounds fits
    have whole := follows.accords
    rw [List.singleton_append] at follows whole
    rw [← List.cons_append, throughout_append]
    exact ⟨whole, follows.ending ending⟩

theorem exists_history_eq_read (c : Collaborators σ ε) (plan : LoopPlan) (s : σ) :
    ∃ a later, c.history plan s = ⟨s, .read a⟩ :: later := by
  refine run_cases c plan s ?_ ?_
  · exact fun e t unread => ⟨_, _, rfl⟩
  · exact fun text n q s₁ t ms ends answer u read few rounds ending => ⟨_, _, rfl⟩

/-- Whatever the collaborators answer, as long as the store keeps what the loop writes and the read
tells what is stored: the store is read once, each lint is run against the text found at the start
or the source of the repair that was the answer to the pass before, every report gives the number of
that version and what its lint found, and every repair request gives the path, the text that was
stored when the lint was called and what it found. -/
theorem run_handoff (plan : LoopPlan) (stores : c.Stores stored)
    (told : ∀ text, (c.read s).1 = .ok text → stored s = text) :
    Handoff c stored (stored s) (c.history plan s) := by
  have accords := accords_history plan stores told
  exact {
    linted := by
      intro earlier later s q a split
      rw [split] at accords
      exact accords.split
    reported := by
      intro earlier later s cycle split
      rw [split] at accords
      exact accords.split
    requested := by
      intro earlier later s r a split
      rw [split] at accords
      exact accords.split
    read_once := by
      obtain ⟨a, later, begins⟩ := exists_history_eq_read c plan s
      rw [begins] at accords ⊢
      rw [List.countP_cons_of_pos rfl, reads_eq_zero accords.2 (List.cons_ne_nil _ _)] }

/-- A rehearsal whose first repair makes another error and whose second one is clean. -/
def improving : Rehearsal.Script where
  source := .ok "let x: i32 = \"a\";\n"
  lints := [.ok ⟨"", "error[E0308]: mismatched\n--> a:1:14\n|\n", false⟩,
    .ok ⟨"", "error[E0425]: no `y`\n--> a:1:9\n|\n", false⟩, .ok ⟨"", "", true⟩]
  repairs := [.ok (Rehearsal.handOver "let x = y;\n"), .ok (Rehearsal.handOver "let x = 1;\n")]

/-- Here the second request gives the source of the first repair and what the second lint found. -/
theorem run_handoff_improving :
    let c := improving.collaborators
    let s := improving.stage {}
    let plan : LoopPlan := ⟨⟨⟨"."⟩, 5000, 10000⟩, 3⟩
    c.Stores Rehearsal.Stage.source ∧ (∀ text, (c.read s).1 = .ok text → s.source = text) ∧
      Handoff c Rehearsal.Stage.source s.source (c.history plan s) ∧
      ((c.history plan s).filterMap (·.event.request?)).map
          (fun r => (r.source, r.diagnostics.map Diagnostic.code)) =
        [("let x: i32 = \"a\";\n", ["E0308"]), ("let x = y;\n", ["E0425"])] := by
  intro c s plan
  have stores : c.Stores Rehearsal.Stage.source := stores_rehearsal improving
  have told : ∀ text, (c.read s).1 = .ok text → s.source = text := by
    intro text h
    exact Except.ok.inj h
  exact ⟨stores, told, run_handoff plan stores told, by decide +kernel⟩

end Collaborators
end LintRepair
