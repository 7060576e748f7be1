import LintRepair.Loop.Rehearsal
import LintRepair.Proofs.Loop.Journal

/-!
What a run keeps of its cycles, against what it did. Every repair whose source is written is kept
with the lint before it, and a run that ends without an error keeps its last lint as well; an entry
and the calls it tells of have the same place in their orders.
-/
namespace LintRepair

namespace Event
variable {ε : Type}

def output? : Event ε → Option LintOutput
  | .lint _ (.ok output) => some output
  | _ => none

def response? : Event ε → Option Repair
  | .repair _ (.ok r) => some r
  | _ => none

def written? : Event ε → Option String
  | .write text (.ok ()) => some text
  | _ => none

end Event

/-- The repairs whose sources were written, in their order. A source is written by the call behind
the repair. -/
def adopted {ε : Type} : List (Event ε) → List Repair
  | [] => []
  | e :: es =>
    (if es.head?.any (·.written?.isSome) then e.response?.toList else []) ++ adopted es

section Adopted
variable {ε : Type} {es es' : List (Event ε)}

theorem adopted_eq_nil (other : ∀ e ∈ es, e.response? = none) : adopted es = [] := by
  induction es with
  | nil => rfl
  | cons e es ih =>
    rw [adopted, other e List.mem_cons_self, ih fun x hx => other x (List.mem_cons_of_mem e hx)]
    split <;> rfl

theorem adopted_append (begins : ∀ e ∈ es'.head?, e.written? = none) :
    adopted (es ++ es') = adopted es ++ adopted es' := by
  induction es with
  | nil => rfl
  | cons e es ih =>
    have next : (es ++ es').head?.any (·.written?.isSome) = es.head?.any (·.written?.isSome) := by
      cases es with
      | cons x es => rfl
      | nil =>
        cases es' with
        | nil => rfl
        | cons x es' => simp [begins x rfl]
    rw [List.cons_append, adopted, adopted, next, ih, List.append_assoc]

end Adopted

/-- The entry tells of the pass with this number, counted from zero: its lint had this output, and
this repair was made behind it. -/
structure Entry.Tells (e : Entry) (runId : String) (n : Nat) (output : LintOutput)
    (repair : Option Repair) : Prop where
  runId : e.head.runId = runId
  iter : e.head.iter.toNat = n + 1
  version : e.head.version.toNat = n
  lintSuccess : e.head.lintSuccess = output.success
  counted : e.head.diagnostics = e.diagnostics.length
  repaired : e.head.repaired = repair.isSome
  lint : e.lint = output
  diagnostics : e.diagnostics = Diagnostic.extract output.stderr
  repair : e.repair = repair

/-- Each entry tells of the output at its place, and of the repair at its place if there is one. -/
def Agree (runId : String) (outputs : List LintOutput) (repairs : List Repair)
    (entries : List Entry) : Prop :=
  ∀ (i : Nat) (e : Entry), entries[i]? = some e →
    ∃ output, outputs[i]? = some output ∧ e.Tells runId i output repairs[i]?

section Agree
variable {runId : String} {outputs more : List LintOutput} {repairs new : List Repair}
variable {entries : List Entry} {output : LintOutput} {e : Entry} {n : Nat}

theorem Agree.concat (agree : Agree runId outputs repairs entries) (ran : outputs.length = n)
    (made : repairs.length = n) (kept : entries.length = n)
    (tells : e.Tells runId n output new.head?) :
    Agree runId (outputs ++ [output]) (repairs ++ new) (entries ++ [e]) := by
  intro i x hx
  by_cases old : i < n
  · rw [List.getElem?_append_left (by omega)] at hx
    obtain ⟨o, ho, told⟩ := agree i x hx
    rw [List.getElem?_append_left (by omega), List.getElem?_append_left (by omega)]
    exact ⟨o, ho, told⟩
  · have last : i = n := by
      have := (List.getElem?_eq_some_iff.mp hx).1
      rw [List.length_append, List.length_singleton] at this
      omega
    subst last
    rw [← kept, List.getElem?_concat_length] at hx
    obtain rfl := Option.some.inj hx
    refine ⟨output, ?_, ?_⟩
    · rw [← ran]
      exact List.getElem?_concat_length
    · rwa [List.getElem?_append_right (by omega), made, Nat.sub_self, ← List.head?_eq_getElem?]

theorem Agree.append_outputs (agree : Agree runId outputs repairs entries) :
    Agree runId (outputs ++ more) repairs entries := by
  intro i e he
  obtain ⟨output, at_place, told⟩ := agree i e he
  have inside := (List.getElem?_eq_some_iff.mp at_place).1
  exact ⟨output, by rwa [List.getElem?_append_left inside], told⟩

/-- The names of entries that tell of passes in their order are all different. -/
theorem Agree.nodup_names (agree : Agree runId outputs repairs entries) :
    (entries.map Entry.name).Nodup := by
  rw [List.nodup_iff_getElem?_ne_getElem?]
  intro i j before inside same
  rw [List.length_map] at inside
  have hi : entries[i]? = some entries[i] := List.getElem?_eq_getElem (by omega)
  have hj : entries[j]? = some entries[j] := List.getElem?_eq_getElem inside
  obtain ⟨_, _, told⟩ := agree i _ hi
  obtain ⟨_, _, told'⟩ := agree j _ hj
  rw [List.getElem?_map, List.getElem?_map, hi, hj] at same
  have iters := Path.toString_inj (Option.some.inj same)
  have := told.iter
  have := told'.iter
  omega

end Agree

namespace Collaborators
variable {σ ε : Type}

/-- The outputs, repairs and entries among some calls. Every repair was written. -/
structure Account (runId : String) (duration : Cycle → σ → Nat) (ms : List (Moment σ ε))
    (outputs : List LintOutput) (repairs : List Repair) (entries : List Entry) : Prop where
  outputs : (ms.map Moment.event).filterMap Event.output? = outputs
  responses : (ms.map Moment.event).filterMap Event.response? = repairs
  adopted : LintRepair.adopted (ms.map Moment.event) = repairs
  written : (ms.map Moment.event).filterMap Event.written? = repairs.map Repair.source
  entries : entriesOf runId duration ms = entries

/-- How a run that made `n` rounds has kept them. -/
structure Records (runId : String) (duration : Cycle → σ → Nat) (n : Nat) (q : Progress)
    (ms : List (Moment σ ε)) (outputs : List LintOutput) (repairs : List Repair)
    (entries : List Entry) : Prop where
  account : Account runId duration ms outputs repairs entries
  ran : outputs.length = n
  made : repairs.length = n
  kept : entries.length = n
  agree : Agree runId outputs repairs entries
  iter : q.iter.toNat = n
  number : q.current.number.toNat = n

variable {c : Collaborators σ ε} {runId : String} {duration : Cycle → σ → Nat} {plan : LoopPlan}
variable {first : String} {q q' : Progress} {n left : Nat} {s t t' u : σ}
variable {ms new ends : List (Moment σ ε)}
variable {outputs outputs' : List LintOutput} {repairs repairs' : List Repair}
variable {entries entries' : List Entry} {answer : Except (LoopError ε) LoopOutcome}

theorem Account.append (account : Account runId duration ms outputs repairs entries)
    (account' : Account runId duration new outputs' repairs' entries')
    (begins : ∀ e ∈ (new.map Moment.event).head?, e.written? = none) :
    Account runId duration (ms ++ new) (outputs ++ outputs') (repairs ++ repairs')
      (entries ++ entries') where
  outputs := by rw [List.map_append, List.filterMap_append, account.outputs, account'.outputs]
  responses := by rw [List.map_append, List.filterMap_append, account.responses, account'.responses]
  adopted := by rw [List.map_append, adopted_append begins, account.adopted, account'.adopted]
  written := by
    rw [List.map_append, List.filterMap_append, account.written, account'.written, List.map_append]
  entries := by rw [entriesOf_append, account.entries, account'.entries]

theorem account_asked (c : Collaborators σ ε) (runId : String) (duration : Cycle → σ → Nat)
    (q : CommandRequest) (known : Lookups) (ds : List Diagnostic) (s : σ) :
    Account runId duration (c.asked q known ds s) [] [] [] := by
  have explain {e : Event ε} (he : e ∈ (c.asked q known ds s).map Moment.event) :
      ∃ code a, e = .explain code a := by
    obtain ⟨m, hm, rfl⟩ := List.mem_map.mp he
    exact event_of_mem_asked hm
  have silent {β : Type} {f : Event ε → Option β} (none : ∀ code a, f (.explain code a) = none) :
      ((c.asked q known ds s).map Moment.event).filterMap f = [] := by
    rw [List.filterMap_eq_nil_iff]
    intro e he
    obtain ⟨code, a, rfl⟩ := explain he
    exact none code a
  constructor
  · exact silent fun _ _ => rfl
  · exact silent fun _ _ => rfl
  · apply adopted_eq_nil
    intro e he
    obtain ⟨code, a, rfl⟩ := explain he
    rfl
  · exact silent fun _ _ => rfl
  · rw [entriesOf, List.filterMap_eq_nil_iff]
    intro m hm
    obtain ⟨code, a, he⟩ := event_of_mem_asked hm
    simp only [Moment.entry?, he]

section Inquiry
variable {pass : Pass} {known : List Explanation} {lookups : Lookups}

theorem Inquiry.begins (h : Inquiry c plan q s pass new known lookups t) :
    ∃ a rest, new = ⟨s, .lint plan.request a⟩ :: rest := by
  cases h with
  | found ran found explained => exact ⟨_, _, rfl⟩

theorem Inquiry.account (runId : String) (duration : Cycle → σ → Nat)
    (h : Inquiry c plan q s pass new known lookups t) :
    ∃ output, pass = q.pass output ∧ Account runId duration new [output] [] [] := by
  cases h with
  | @found lint s₁ t known lookups ran found explained =>
    have told : Account runId duration [⟨s, .lint plan.request (.ok lint)⟩,
        (⟨s₁, .report ⟨q.pass lint, none⟩⟩ : Moment σ ε)] [lint] [] [] :=
      ⟨rfl, rfl, rfl, rfl, rfl⟩
    have asked := account_asked c runId duration plan.request q.lookups (q.pass lint).diagnostics
      (c.report ⟨q.pass lint, none⟩ s₁)
    refine ⟨lint, rfl, told.append asked fun e he => ?_⟩
    obtain ⟨m, hm, rfl⟩ := List.mem_map.mp (List.mem_of_mem_head? he)
    obtain ⟨code, a, he⟩ := event_of_mem_asked hm
    rw [he]
    rfl

end Inquiry

theorem Round.begins (round : Round c plan q t new q' t') :
    ∃ a rest, new = ⟨t, .lint plan.request a⟩ :: rest := by
  cases round with
  | mended inquiry repaired written =>
    obtain ⟨a, rest, rfl⟩ := inquiry.begins
    exact ⟨a, _, rfl⟩

/-- The calls of a round: its lint and its repair, which are kept in one entry. -/
theorem Round.account (runId : String) (duration : Cycle → σ → Nat)
    (round : Round c plan q t new q' t') :
    ∃ output r lookups d, q' = q.repaired lookups r ∧
      Account runId duration new [output] [r] [.ofCycle runId d ⟨q.pass output, some r⟩] := by
  cases round with
  | @mended pass inquired known lookups r s₂ s₃ s₄ inquiry repaired written =>
    obtain ⟨output, rfl, account⟩ := inquiry.account runId duration
    have mended : Account runId duration
        [⟨s₂, .repair ⟨c.path, q.current.text, (q.pass output).diagnostics, known⟩ (.ok r)⟩,
          ⟨s₃, .write r.source (.ok ())⟩, ⟨s₄, .record ⟨q.pass output, some r⟩⟩,
          (⟨c.record ⟨q.pass output, some r⟩ s₄, .report ⟨q.pass output, some r⟩⟩ : Moment σ ε)]
        [] [r] [.ofCycle runId (duration ⟨q.pass output, some r⟩ s₄) ⟨q.pass output, some r⟩] :=
      ⟨rfl, rfl, rfl, rfl, rfl⟩
    refine ⟨output, r, lookups, _, rfl, account.append mended ?_⟩
    rintro e ⟨⟩
    rfl

theorem Records.start (read : Except ε String) :
    Records runId duration 0 (.start first) [(⟨s, .read read⟩ : Moment σ ε)] [] [] [] where
  account := ⟨rfl, rfl, rfl, rfl, rfl⟩
  ran := rfl
  made := rfl
  kept := rfl
  agree := nofun
  iter := rfl
  number := rfl

/-- An entry that is made of a lint in the next pass tells of it. -/
theorem Records.tells (records : Records runId duration n q ms outputs repairs entries)
    (fits : n + 1 < UInt32.size) (d : Nat) (output : LintOutput) (repair : Option Repair) :
    (Entry.ofCycle runId d ⟨q.pass output, repair⟩).Tells runId n output repair where
  runId := rfl
  iter := by
    show (q.iter + 1).toNat = n + 1
    rw [UInt32.toNat_add, records.iter]
    exact Nat.mod_eq_of_lt fits
  version := records.number
  lintSuccess := rfl
  counted := rfl
  repaired := rfl
  lint := rfl
  diagnostics := rfl
  repair := rfl

theorem Records.round (records : Records runId duration n q ms outputs repairs entries)
    (fits : n + 1 < UInt32.size) (round : Round c plan q t new q' t') :
    ∃ output r e, Records runId duration (n + 1) q' (ms ++ new) (outputs ++ [output])
      (repairs ++ [r]) (entries ++ [e]) := by
  obtain ⟨a, rest, begins⟩ := round.begins
  obtain ⟨output, r, lookups, d, rfl, account⟩ := round.account runId duration
  refine ⟨output, r, .ofCycle runId d ⟨q.pass output, some r⟩, ?_⟩
  constructor
  · refine records.account.append account ?_
    rw [begins]
    rintro e ⟨⟩
    rfl
  · rw [List.length_append, records.ran, List.length_singleton]
  · rw [List.length_append, records.made, List.length_singleton]
  · rw [List.length_append, records.kept, List.length_singleton]
  · exact records.agree.concat records.ran records.made records.kept
      (records.tells fits d output (some r))
  · show (q.iter + 1).toNat = n + 1
    rw [UInt32.toNat_add, records.iter]
    exact Nat.mod_eq_of_lt fits
  · show (q.current.number + 1).toNat = n + 1
    rw [UInt32.toNat_add, records.number]
    exact Nat.mod_eq_of_lt fits

theorem Records.rounds {p : Progress} (records : Records runId duration 0 p ms [] [] [])
    (rounds : Rounds c plan n p s new q t) (fits : n < UInt32.size) :
    ∃ outputs repairs entries,
      Records runId duration n q (ms ++ new) outputs repairs entries := by
  induction rounds with
  | refl => exact ⟨[], [], [], by rwa [List.append_nil]⟩
  | tail before last ih =>
    obtain ⟨outputs, repairs, entries, so_far⟩ := ih records (Nat.lt_of_succ_lt fits)
    obtain ⟨output, r, e, records⟩ := so_far.round fits last
    rw [List.append_assoc] at records
    exact ⟨_, _, _, records⟩

theorem Ending.begins (ending : Ending c plan left q t ends answer u) :
    ∃ a rest, ends = ⟨t, .lint plan.request a⟩ :: rest := by
  cases ending with
  | unrepaired _ inquiry unrepaired =>
    obtain ⟨a, rest, rfl⟩ := inquiry.begins
    exact ⟨a, _, rfl⟩
  | unwritten _ inquiry repaired unwritten =>
    obtain ⟨a, rest, rfl⟩ := inquiry.begins
    exact ⟨a, _, rfl⟩
  | _ => exact ⟨_, _, rfl⟩

/-- An ending without an error keeps its lint, and any other one keeps nothing. No ending writes the
source of a repair. -/
theorem Ending.account (runId : String) (duration : Cycle → σ → Nat)
    (ending : Ending c plan left q t ends answer u) :
    (∃ outcome output d, answer = .ok outcome ∧
        Account runId duration ends [output] [] [.ofCycle runId d ⟨q.pass output, none⟩]) ∨
      ∃ f, answer = .error f ∧ adopted (ends.map Moment.event) = [] ∧
        entriesOf runId duration ends = [] := by
  cases ending with
  | unlinted => exact .inr ⟨_, rfl, rfl, rfl⟩
  | restored => exact .inr ⟨_, rfl, rfl, rfl⟩
  | unrestored => exact .inr ⟨_, rfl, rfl, rfl⟩
  | @clean _ _ lint => exact .inl ⟨_, lint, _, rfl, rfl, rfl, rfl, rfl, rfl⟩
  | @spent _ lint => exact .inl ⟨_, lint, _, rfl, rfl, rfl, rfl, rfl, rfl⟩
  | unrepaired _ inquiry unrepaired =>
    obtain ⟨output, -, account⟩ := inquiry.account runId duration
    refine .inr ⟨_, rfl, ?_, ?_⟩
    · rw [List.map_append, adopted_append (by rintro e ⟨⟩; rfl), account.adopted]
      rfl
    · rw [entriesOf_append, account.entries]
      rfl
  | unwritten _ inquiry repaired unwritten =>
    obtain ⟨output, -, account⟩ := inquiry.account runId duration
    refine .inr ⟨_, rfl, ?_, ?_⟩
    · rw [List.map_append, adopted_append (by rintro e ⟨⟩; rfl), account.adopted]
      rfl
    · rw [entriesOf_append, account.entries]
      rfl

end Collaborators

/-- The entries of a run against its calls: there is one for each repair whose source was written,
and one more if the run ended without an error. They agree with the lints and with these repairs,
which are the first ones of all, and whose sources are the first texts that were stored. -/
structure Logged {ε : Type} (es : List (Event ε)) (answer : Except (LoopError ε) LoopOutcome)
    (runId : String) (entries : List Entry) : Prop where
  count : entries.length = (adopted es).length + if answer.isOk then 1 else 0
  agree : Agree runId (es.filterMap Event.output?) (adopted es) entries
  stored : ∀ (i : Nat) (r : Repair), (adopted es)[i]? = some r →
    (es.filterMap Event.response?)[i]? = some r ∧
      (es.filterMap Event.written?)[i]? = some r.source

namespace Collaborators
variable {σ ε : Type} {c : Collaborators σ ε} {runId : String} {duration : Cycle → σ → Nat}
variable {plan : LoopPlan} {q : Progress} {n left : Nat} {s t u : σ} {ms ends : List (Moment σ ε)}
variable {outputs : List LintOutput} {repairs : List Repair} {entries : List Entry}
variable {answer : Except (LoopError ε) LoopOutcome}

/-- Whatever the ending adds stands behind the repairs of the rounds. -/
theorem Records.logged (records : Records runId duration n q ms outputs repairs entries)
    (fits : n + 1 < UInt32.size) (ending : Ending c plan left q t ends answer u) :
    Logged ((ms ++ ends).map Moment.event) answer runId (entriesOf runId duration (ms ++ ends)) := by
  have account := records.account
  have begins : ∀ e ∈ (ends.map Moment.event).head?, e.written? = none := by
    obtain ⟨a, rest, rfl⟩ := ending.begins
    rintro e ⟨⟩
    rfl
  have stored : ∀ (i : Nat) (r : Repair), repairs[i]? = some r →
      (((ms ++ ends).map Moment.event).filterMap Event.response?)[i]? = some r ∧
        (((ms ++ ends).map Moment.event).filterMap Event.written?)[i]? = some r.source := by
    intro i r at_place
    have inside := (List.getElem?_eq_some_iff.mp at_place).1
    rw [List.map_append, List.filterMap_append, List.filterMap_append, account.responses,
      account.written, List.getElem?_append_left inside,
      List.getElem?_append_left (by rwa [List.length_map]), List.getElem?_map, at_place]
    exact ⟨rfl, rfl⟩
  rcases ending.account runId duration with
    ⟨outcome, output, d, rfl, last⟩ | ⟨f, rfl, none_adopted, none_kept⟩
  · have whole := account.append last begins
    constructor
    · rw [whole.entries, whole.adopted, List.length_append, List.append_nil, records.kept,
        records.made]
      rfl
    · rw [whole.outputs, whole.adopted, whole.entries]
      exact records.agree.concat records.ran records.made records.kept
        (records.tells fits d output none)
    · rw [whole.adopted, List.append_nil]
      exact stored
  · have adopted : adopted ((ms ++ ends).map Moment.event) = repairs := by
      rw [List.map_append, adopted_append begins, account.adopted, none_adopted, List.append_nil]
    have kept : entriesOf runId duration (ms ++ ends) = entries := by
      rw [entriesOf_append, account.entries, none_kept, List.append_nil]
    constructor
    · rw [kept, adopted, records.kept, records.made]
      rfl
    · rw [kept, adopted, List.map_append, List.filterMap_append, account.outputs]
      exact records.agree.append_outputs
    · rw [adopted]
      exact stored

/-- The cycles that a run keeps are those it went through. -/
theorem logged_history (bounded : plan.maxIterations < 4294967295) (c : Collaborators σ ε) (s : σ)
    (runId : String) (duration : Cycle → σ → Nat) :
    Logged (c.events plan s) (c.run plan s).1 runId
      (entriesOf runId duration (c.history plan s)) := by
  rw [events_eq_map_history]
  refine run_cases c plan s ?_ ?_
  · exact fun e t unread => ⟨rfl, nofun, nofun⟩
  · intro text n q s₁ t ms ends answer u read few rounds ending
    have fits : n + 1 < UInt32.size := by
      have := UInt32.lt_iff_toNat_lt.mp bounded
      simp only [UInt32.size]
      simp only [UInt32.reduceToNat] at this
      omega
    have start : Records runId duration 0 (.start text) [(⟨s, .read (.ok text)⟩ : Moment σ ε)]
      [] [] [] := .start _
    obtain ⟨outputs, repairs, entries, records⟩ := start.rounds rounds (Nat.lt_of_succ_lt fits)
    have logged := records.logged fits ending
    rwa [List.append_assoc] at logged

variable {tree : σ → Tree} {base : List String} {dir : Path}

/-- A run whose journal has a fresh directory, all of whose entries can be written and whose number
of passes fits its word leaves in that directory a directory for each repair whose source was
written, and one more if it ended without an error, numbered from one; each holds the files of its
entry, and the entries agree with the calls of the run. -/
theorem run_journaled (bounded : plan.maxIterations < 4294967295)
    (journals : c.Journals tree base dir runId duration)
    (fresh : (tree s).Fresh base (dir.child runId))
    (written : ∀ m ∈ c.history plan s, ∀ e ∈ m.entry? runId duration,
      ((tree m.before).writeEntry base dir e).1 = .ok ()) :
    ∃ entries, Logged (c.events plan s) (c.run plan s).1 runId entries ∧
      (tree (c.run plan s).2).HoldsJournal ((dir.child runId).key base) entries ∧
      ∀ name, (tree (c.run plan s).2).get? ((dir.child runId).key base ++ [name]) ≠ none ↔
        ∃ i, 1 ≤ i ∧
          i ≤ (adopted (c.events plan s)).length + (if (c.run plan s).1.isOk then 1 else 0) ∧
          name = toString i := by
  have logged := logged_history bounded c s runId duration
  have holds := holdsJournal_history plan journals fresh written logged.agree.nodup_names
  refine ⟨_, logged, holds, fun name => ?_⟩
  rw [holds.get?_ne_none_iff, ← logged.count]
  constructor
  · rintro ⟨e, he, rfl⟩
    obtain ⟨i, inside, rfl⟩ := List.mem_iff_getElem.mp he
    obtain ⟨_, _, tells⟩ := logged.agree i _ (List.getElem?_eq_getElem inside)
    exact ⟨i + 1, by omega, by omega, congrArg toString tells.iter⟩
  · rintro ⟨i, low, high, rfl⟩
    have inside : i - 1 < (entriesOf runId duration (c.history plan s)).length := by omega
    obtain ⟨_, _, tells⟩ := logged.agree (i - 1) _ (List.getElem?_eq_getElem inside)
    refine ⟨_, List.getElem_mem inside, congrArg toString ?_⟩
    rw [tells.iter, Nat.sub_add_cancel low]

/-- A rehearsal with a journal changes its tree only when it keeps a cycle. -/
theorem journals_rehearsal {script : Rehearsal.Script} (h : script.iterations = some dir) :
    script.collaborators.Journals Rehearsal.Stage.tree [] dir script.runId
      fun cycle _ => script.duration cycle where
  record cycle s := by
    rw [← h]
    rfl
  others made other name rest := by
    cases made with
    | record => cases other
    | _ => rfl

/-- A rehearsal with a journal. Behind its repair the lint fails. -/
def logging : Rehearsal.Script where
  source := .ok "f(x);\n"
  lints := [.ok ⟨"", "error[E1]: no x\n--> a:1:3\n|\n", false⟩]
  repairs := [.ok (Rehearsal.handOver "f(1);\n")]
  iterations := some ⟨"/it"⟩
  runId := "20250102T030405.678Z"
  duration c := 7 * c.pass.iter.toNat

/-- The run fails, and its one repair is kept. -/
theorem run_journaled_logging :
    let c := logging.collaborators
    let s := logging.stage {}
    let plan : LoopPlan := ⟨⟨⟨"."⟩, 5000, 10000⟩, 3⟩
    let run := (⟨"/it"⟩ : Path).child logging.runId
    let duration : Cycle → Rehearsal.Stage → Nat := fun cycle _ => 7 * cycle.pass.iter.toNat
    plan.maxIterations < 4294967295 ∧
      c.Journals Rehearsal.Stage.tree [] ⟨"/it"⟩ logging.runId duration ∧
      s.tree.Fresh [] run ∧
      (∀ m ∈ c.history plan s, ∀ e ∈ m.entry? logging.runId duration,
        (m.before.tree.writeEntry [] ⟨"/it"⟩ e).1 = .ok ()) ∧
      ∃ e, Logged (c.events plan s) (c.run plan s).1 logging.runId [e] ∧
        (c.run plan s).2.tree.HoldsJournal (run.key []) [e] := by
  intro c s plan run duration
  have bounded : plan.maxIterations < 4294967295 := by decide
  have journals : c.Journals Rehearsal.Stage.tree [] ⟨"/it"⟩ logging.runId duration :=
    journals_rehearsal rfl
  have led : run.key [] = ["it", logging.runId] := by decide
  have fresh : s.tree.Fresh [] run := by
    apply Tree.fresh_of_outside (Path.isName_of_isRunId (by decide)) (by decide)
    · rw [led]
      decide
    · intro name rest
      rw [led]
      rfl
  have written : ∀ m ∈ c.history plan s, ∀ e ∈ m.entry? logging.runId duration,
      (m.before.tree.writeEntry [] ⟨"/it"⟩ e).1 = .ok () := by decide +kernel
  obtain ⟨entries, logged, holds, -⟩ := run_journaled bounded journals fresh written
  have one : (adopted (c.events plan s)).length + (if (c.run plan s).1.isOk then 1 else 0) = 1 := by
    decide +kernel
  obtain ⟨e, rfl⟩ := List.length_eq_one_iff.mp (logged.count.trans one)
  exact ⟨bounded, journals, fresh, written, e, logged, holds⟩

end Collaborators
end LintRepair
