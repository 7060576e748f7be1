import LintRepair.Proofs.Loop.Handoff
import Mathlib.Control.Monad.Basic

/-!
A small language for the calls and reports of a run: the read, full cycles (lint, report, lookups,
repair, write, report) and one closing part. A list of calls is read as a word in one way at most,
and the calls of a coherent word are in order: diagnostics before the request, the write before the
report of a response, nothing behind a failure but a text written back.
-/
namespace LintRepair

deriving instance DecidableEq for Event

section Words
variable {ε : Type}

def Event.isRecord : Event ε → Bool
  | .record _ => true
  | _ => false

def Event.isFormat : Event ε → Bool
  | .format _ => true
  | _ => false

/-- A pass up to its repair request, which gives this source and these explanations. -/
structure Asking (ε : Type) where
  pass : Pass
  lookups : List (String × Except ε (Option String))
  source : String
  known : List Explanation
deriving DecidableEq

/-- A pass whose repair was written. -/
structure FullCycle (ε : Type) where
  asking : Asking ε
  repair : Repair
deriving DecidableEq

/-- The closing part of a run that could be read. -/
inductive Tail (ε : Type) where
  | clean (pass : Pass) (formatted : Except ε Unit)
  /-- Something was found and the budget is spent. -/
  | spent (pass : Pass)
  | unlinted (e : ε)
  /-- A text is written back after a failed lint. -/
  | restored (e : ε) (text : String) (answer : Except ε Unit)
  | unrepaired (a : Asking ε) (e : ε)
  | unwritten (a : Asking ε) (r : Repair) (e : ε)
deriving DecidableEq

/-- A word of the language. -/
inductive Word (ε : Type) where
  | unread (e : ε)
  | ended (text : String) (cycles : List (FullCycle ε)) (tail : Tail ε)
deriving DecidableEq

def lookedUp (ls : List (String × Except ε (Option String))) : List (Event ε) :=
  ls.map fun l => .explain l.1 l.2

section Events
variable (path : String) (q : CommandRequest)

/-- The diagnostics are reported without a response, and the same ones are then asked about. -/
def Asking.events (a : Asking ε) (answer : Except ε Repair) : List (Event ε) :=
  .lint q (.ok a.pass.lint) :: .report ⟨a.pass, none⟩ ::
    (lookedUp a.lookups ++ [.repair ⟨path, a.source, a.pass.diagnostics, a.known⟩ answer])

def FullCycle.events (f : FullCycle ε) : List (Event ε) :=
  f.asking.events path q (.ok f.repair) ++
    [.write f.repair.source (.ok ()), .report ⟨f.asking.pass, some f.repair⟩]

def Tail.events : Tail ε → List (Event ε)
  | .clean pass a => [.lint q (.ok pass.lint), .report ⟨pass, none⟩, .format a]
  | .spent pass => [.lint q (.ok pass.lint), .report ⟨pass, none⟩]
  | .unlinted e => [.lint q (.error e)]
  | .restored e text a => [.lint q (.error e), .write text a]
  | .unrepaired a e => a.events path q (.error e)
  | .unwritten a r e => a.events path q (.ok r) ++ [.write r.source (.error e)]

def Word.events : Word ε → List (Event ε)
  | .unread e => [.read (.error e)]
  | .ended text cycles tail =>
    .read (.ok text) :: (cycles.flatMap (·.events path q) ++ tail.events path q)

end Events

/-- The text that is linted after some full cycles of a run that found `text`. -/
def textAfter (text : String) (cycles : List (FullCycle ε)) : String :=
  (cycles.getLast?.map (·.repair.source)).getD text

/-- The request is about this text, and about what the lint found, which is something. -/
def Asking.About (text : String) (a : Asking ε) : Prop :=
  a.source = text ∧ a.pass.diagnostics = Diagnostic.extract a.pass.lint.stderr ∧
    a.pass.diagnostics ≠ []

/-- The closing part that can follow some full cycles. -/
def Tail.Fits (text : String) (cycles : List (FullCycle ε)) : Tail ε → Prop
  | .clean pass _ => Diagnostic.extract pass.lint.stderr = [] ∧ pass.diagnostics = []
  | .spent pass =>
    pass.diagnostics = Diagnostic.extract pass.lint.stderr ∧ pass.diagnostics ≠ []
  | .unlinted _ => cycles = []
  | .restored _ old _ => ∃ earlier last, cycles = earlier ++ [last] ∧ old = textAfter text earlier
  | .unrepaired a _ | .unwritten a _ _ => a.About (textAfter text cycles)

def Tail.Verdict (plan : LoopPlan) (answer : Except (LoopError ε) LoopOutcome) : Tail ε → Prop
  | .clean pass _ => ∃ k, answer = .ok ⟨k, .converged pass.iter⟩
  | .spent pass => ∃ k, answer = .ok ⟨k, .exceeded plan.maxIterations pass.diagnostics.length⟩
  | .unlinted e => answer = .error (.lint e)
  | .restored e _ (.ok ()) => answer = .error (.lint e)
  | .restored _ _ (.error f) => answer = .error (.restore f)
  | .unrepaired _ e => answer = .error (.repair e)
  | .unwritten _ _ e => answer = .error (.write e)

namespace Word

/-- Every full cycle and the closing part go on from the cycles before them. -/
def Coherent : Word ε → Prop
  | .unread _ => True
  | .ended text cycles tail =>
    Throughout (fun earlier (f : FullCycle ε) => f.asking.About (textAfter text earlier)) [] cycles ∧
      tail.Fits text cycles

def Verdict (plan : LoopPlan) (answer : Except (LoopError ε) LoopOutcome) : Word ε → Prop
  | .unread e => answer = .error (.read e)
  | .ended _ _ tail => tail.Verdict plan answer

def restored? : Word ε → Option String
  | .ended _ _ (.restored _ text _) => some text
  | _ => none

end Word

/-- What the order of some calls comes to. -/
structure Orderly (es : List (Event ε)) : Prop where
  /-- What a pass found is reported before a repair of it is asked for. -/
  asked : ∀ {earlier later r a}, es = earlier ++ .repair r a :: later →
    ∃ before q pass ls, earlier =
        before ++ .lint q (.ok pass.lint) :: .report ⟨pass, none⟩ :: lookedUp ls ∧
      r.diagnostics = pass.diagnostics
  /-- A response is reported when its source has been written. -/
  answered : ∀ {earlier later pass r}, es = earlier ++ .report ⟨pass, some r⟩ :: later →
    ∃ before request, earlier =
      before ++ [.repair request (.ok r), .write r.source (.ok ())]
  /-- Behind a failure there is nothing, or one write behind a failed lint. -/
  failed : ∀ {earlier later e}, es = earlier ++ e :: later → e.isFailure = true →
    later = [] ∨ ∃ q f text a, e = .lint q (.error f) ∧ later = [.write text a]
  /-- A format pass is the only one, the last call, and behind a clean pass. -/
  formatted : ∀ {earlier later a}, es = earlier ++ .format a :: later →
    later = [] ∧ earlier.countP Event.isFormat = 0 ∧
      ∃ before q pass, earlier = before ++ [.lint q (.ok pass.lint), .report ⟨pass, none⟩] ∧
        Diagnostic.extract pass.lint.stderr = []

section Reading
variable {path : String} {q : CommandRequest}

theorem lookedUp_append_inj {ls ls' : List (String × Except ε (Option String))}
    {r r' : RepairRequest} {x x' : Except ε Repair} {es es' : List (Event ε)}
    (h : lookedUp ls ++ .repair r x :: es = lookedUp ls' ++ .repair r' x' :: es') :
    ls = ls' ∧ r = r' ∧ x = x' ∧ es = es' := by
  induction ls generalizing ls' with
  | nil =>
    cases ls' with
    | nil => simpa [lookedUp, and_assoc] using h
    | cons l ls' => simp [lookedUp] at h
  | cons l ls ih =>
    cases ls' with
    | nil => simp [lookedUp] at h
    | cons l' ls' =>
      simp only [lookedUp, List.map_cons, List.cons_append, List.cons.injEq, Event.explain.injEq] at h
      obtain ⟨⟨code, answer⟩, rest⟩ := h
      obtain ⟨rfl, same⟩ := ih rest
      exact ⟨by rw [Prod.ext code answer], same⟩

theorem Asking.events_append_inj {a a' : Asking ε} {x x' : Except ε Repair} {es es' : List (Event ε)}
    (h : a.events path q x ++ es = a'.events path q x' ++ es') : a = a' ∧ x = x' ∧ es = es' := by
  obtain ⟨pass, lookups, source, known⟩ := a
  obtain ⟨pass', lookups', source', known'⟩ := a'
  simp only [Asking.events, List.cons_append, List.append_assoc, List.nil_append, List.cons.injEq,
    Event.report.injEq, Cycle.mk.injEq, and_true] at h
  obtain ⟨-, rfl, rest⟩ := h
  obtain ⟨rfl, request, same⟩ := lookedUp_append_inj rest
  simp only [RepairRequest.mk.injEq, true_and] at request
  obtain ⟨rfl, rfl⟩ := request
  exact ⟨rfl, same⟩

theorem Asking.events_append_ne {a : Asking ε} {x : Except ε Repair} {es es' : List (Event ε)}
    (quiet : ∀ e ∈ es', e.isRepair = false) : a.events path q x ++ es ≠ es' := by
  rintro rfl
  have never := quiet (.repair ⟨path, a.source, a.pass.diagnostics, a.known⟩ x)
    (by simp [Asking.events])
  cases never

theorem FullCycle.events_append_inj {f f' : FullCycle ε} {es es' : List (Event ε)}
    (h : f.events path q ++ es = f'.events path q ++ es') : f = f' ∧ es = es' := by
  obtain ⟨a, r⟩ := f
  obtain ⟨a', r'⟩ := f'
  simp only [FullCycle.events, List.append_assoc] at h
  obtain ⟨rfl, same, rest⟩ := Asking.events_append_inj h
  cases same
  exact ⟨rfl, List.append_cancel_left rest⟩

theorem FullCycle.events_append_ne (f : FullCycle ε) (t : Tail ε) (es : List (Event ε)) :
    f.events path q ++ es ≠ t.events path q := by
  intro h
  rw [FullCycle.events, List.append_assoc] at h
  cases t with
  | unrepaired a e =>
    rw [Tail.events, ← List.append_nil (a.events path q (.error e))] at h
    cases (Asking.events_append_inj h).2.1
  | unwritten a r e =>
    have rest := (Asking.events_append_inj h).2.2
    simp at rest
  | _ => exact Asking.events_append_ne (by simp [Tail.events, Event.isRepair]) h

/-- A closing part with a repair request is none of those without one, so its events tell it. -/
theorem Tail.events_inj {t t' : Tail ε} (h : t.events path q = t'.events path q) : t = t' := by
  have asking {a : Asking ε} {x : Except ε Repair} {es es' : List (Event ε)}
      (h : a.events path q x ++ es = es') : ¬ ∀ e ∈ es', e.isRepair = false :=
    fun quiet => Asking.events_append_ne quiet h
  cases t with
  | unrepaired a e =>
    rw [Tail.events, ← List.append_nil (a.events path q (.error e))] at h
    cases t' with
    | unrepaired a' e' =>
      rw [Tail.events, ← List.append_nil (a'.events path q (.error e'))] at h
      obtain ⟨rfl, same, -⟩ := Asking.events_append_inj h
      cases same
      rfl
    | unwritten a' r e' => cases (Asking.events_append_inj h).2.1
    | _ => exact absurd (by simp [Tail.events, Event.isRepair]) (asking h)
  | unwritten a r e =>
    cases t' with
    | unrepaired a' e' =>
      rw [Tail.events, Tail.events, ← List.append_nil (a'.events path q (.error e'))] at h
      cases (Asking.events_append_inj h).2.1
    | unwritten a' r' e' =>
      obtain ⟨rfl, same, rest⟩ := Asking.events_append_inj h
      cases same
      cases rest
      rfl
    | _ => exact absurd (by simp [Tail.events, Event.isRepair]) (asking h)
  | _ =>
    cases t' with
    | unrepaired a e =>
      rw [Tail.events, Tail.events, ← List.append_nil (a.events path q (.error e))] at h
      exact absurd (by simp [Event.isRepair]) (asking h.symm)
    | unwritten a r e => exact absurd (by simp [Tail.events, Event.isRepair]) (asking h.symm)
    | _ => simp_all [Tail.events]

/-- Behind the read, two words with the same events take the same full cycles off until one of them
closes. -/
theorem Word.events_inj {w w' : Word ε} (h : w.events path q = w'.events path q) : w = w' := by
  have closing {cycles cycles' : List (FullCycle ε)} {t t' : Tail ε}
      (h : cycles.flatMap (·.events path q) ++ t.events path q =
        cycles'.flatMap (·.events path q) ++ t'.events path q) : cycles = cycles' ∧ t = t' := by
    induction cycles generalizing cycles' with
    | nil =>
      cases cycles' with
      | nil => exact ⟨rfl, Tail.events_inj h⟩
      | cons f cycles' =>
        rw [List.flatMap_cons, List.append_assoc] at h
        exact absurd h.symm (f.events_append_ne t _)
    | cons f cycles ih =>
      cases cycles' with
      | nil =>
        rw [List.flatMap_cons, List.append_assoc] at h
        exact absurd h (f.events_append_ne t' _)
      | cons f' cycles' =>
        rw [List.flatMap_cons, List.flatMap_cons, List.append_assoc, List.append_assoc] at h
        obtain ⟨rfl, rest⟩ := FullCycle.events_append_inj h
        obtain ⟨rfl, same⟩ := ih rest
        exact ⟨rfl, same⟩
  cases w with
  | unread e => cases w' <;> simp_all [Word.events]
  | ended text cycles tail =>
    cases w' with
    | unread e => simp [Word.events] at h
    | ended text' cycles' tail' =>
      simp only [Word.events, List.cons.injEq, Event.read.injEq, Except.ok.injEq] at h
      obtain ⟨rfl, same⟩ := h
      obtain ⟨rfl, rfl⟩ := closing same
      rfl

/-- No failed call and no format pass. -/
def Calm (es : List (Event ε)) : Prop := ∀ e ∈ es, e.isFailure = false ∧ e.isFormat = false

theorem calm_nil : Calm ([] : List (Event ε)) := nofun

theorem Calm.cons {e : Event ε} {es : List (Event ε)}
    (he : e.isFailure = false ∧ e.isFormat = false) (h : Calm es) : Calm (e :: es) := by
  intro x hx
  rcases List.mem_cons.mp hx with rfl | hx
  · exact he
  · exact h x hx

theorem Calm.append {es es' : List (Event ε)} (h : Calm es) (h' : Calm es') : Calm (es ++ es') := by
  intro e he
  rcases List.mem_append.mp he with he | he
  · exact h e he
  · exact h' e he

theorem calm_lookedUp (ls : List (String × Except ε (Option String))) : Calm (lookedUp ls) := by
  intro e he
  obtain ⟨l, -, rfl⟩ := List.mem_map.mp he
  exact ⟨rfl, rfl⟩

theorem calm_pass (q : CommandRequest) (pass : Pass) :
    Calm [.lint q (.ok pass.lint), (.report ⟨pass, none⟩ : Event ε)] :=
  .cons ⟨rfl, rfl⟩ (.cons ⟨rfl, rfl⟩ calm_nil)

theorem Asking.exists_events_eq (a : Asking ε) (path : String) (q : CommandRequest)
    (x : Except ε Repair) :
    ∃ es request, Calm es ∧ a.events path q x = es ++ [.repair request x] :=
  ⟨_, _, .cons ⟨rfl, rfl⟩ (.cons ⟨rfl, rfl⟩ (calm_lookedUp a.lookups)), rfl⟩

theorem calm_cycles (cycles : List (FullCycle ε)) : Calm (cycles.flatMap (·.events path q)) := by
  intro e he
  obtain ⟨f, -, he⟩ := List.mem_flatMap.mp he
  obtain ⟨es, request, calm, split⟩ := f.asking.exists_events_eq path q (.ok f.repair)
  rw [FullCycle.events, split, List.append_assoc] at he
  exact calm.append (.cons ⟨rfl, rfl⟩ (.cons ⟨rfl, rfl⟩ (.cons ⟨rfl, rfl⟩ calm_nil))) e he

/-- A run that could be read is calm up to its closing part. -/
theorem calm_begun (path : String) (q : CommandRequest) (text : String)
    (cycles : List (FullCycle ε)) :
    Calm (.read (.ok text) :: cycles.flatMap (·.events path q)) :=
  .cons ⟨rfl, rfl⟩ (calm_cycles cycles)

/-- A call that is a failure or a format pass stands behind all that is calm. -/
theorem Calm.split {body tail earlier later : List (Event ε)} {e : Event ε} (calm : Calm body)
    (h : body ++ tail = earlier ++ e :: later) (he : e.isFailure = true ∨ e.isFormat = true) :
    ∃ mid, earlier = body ++ mid ∧ tail = mid ++ e :: later := by
  rcases List.append_eq_append_iff.mp h with ⟨mid, hm, ht⟩ | ⟨mid, hm, ht⟩
  · exact ⟨mid, hm, ht⟩
  · cases mid with
    | nil => exact ⟨[], by simpa using hm.symm, by simpa using ht.symm⟩
    | cons x mid =>
      simp only [List.cons_append, List.cons.injEq] at ht
      obtain ⟨rfl, -⟩ := ht
      have := calm e (by simp [hm])
      simp [this] at he

/-- A call that stands behind all that is calm and is the only one there is the last. -/
theorem Calm.last {body earlier later : List (Event ε)} {x e : Event ε} (calm : Calm body)
    (h : body ++ [x] = earlier ++ e :: later) (he : e.isFailure = true ∨ e.isFormat = true) :
    e = x ∧ earlier = body ∧ later = [] := by
  obtain ⟨mid, rfl, ht⟩ := calm.split h he
  rcases mid with _ | ⟨y, mid⟩
  · simp only [List.nil_append, List.cons.injEq] at ht
    exact ⟨ht.1.symm, List.append_nil body, ht.2.symm⟩
  · simp at ht

theorem Tail.of_failed {t : Tail ε} {mid later : List (Event ε)} {e : Event ε}
    (h : t.events path q = mid ++ e :: later) (failed : e.isFailure = true) :
    later = [] ∨ ∃ f text a, e = .lint q (.error f) ∧ later = [.write text a] := by
  have mem : e ∈ t.events path q := by simp [h]
  cases t with
  | clean pass a =>
    simp only [Tail.events, List.mem_cons, List.not_mem_nil, or_false] at mem
    rcases mem with rfl | rfl | rfl <;> cases failed
  | spent pass =>
    simp only [Tail.events, List.mem_cons, List.not_mem_nil, or_false] at mem
    rcases mem with rfl | rfl <;> cases failed
  | unlinted f =>
    exact .inl (calm_nil.last h (.inl failed)).2.2
  | restored f text a =>
    rcases mid with _ | ⟨x, mid⟩
    · simp only [Tail.events, List.nil_append, List.cons.injEq] at h
      exact .inr ⟨f, text, a, h.1.symm, h.2.symm⟩
    · rcases mid with _ | ⟨y, mid⟩ <;> simp_all [Tail.events]
  | unrepaired a f =>
    obtain ⟨es, request, calm, split⟩ := a.exists_events_eq path q (.error f)
    rw [Tail.events, split] at h
    exact .inl (calm.last h (.inl failed)).2.2
  | unwritten a r f =>
    obtain ⟨es, request, calm, split⟩ := a.exists_events_eq path q (.ok r)
    rw [Tail.events, split] at h
    exact .inl ((calm.append (.cons ⟨rfl, rfl⟩ calm_nil)).last h (.inl failed)).2.2

theorem Tail.of_formatted {t : Tail ε} {mid later : List (Event ε)} {x : Except ε Unit}
    (h : t.events path q = mid ++ .format x :: later) :
    later = [] ∧ ∃ pass, t = .clean pass x ∧
      mid = [.lint q (.ok pass.lint), .report ⟨pass, none⟩] := by
  have mem : .format x ∈ t.events path q := by simp [h]
  cases t with
  | clean pass a =>
    obtain ⟨same, rfl, rfl⟩ := (calm_pass q pass).last h (.inr rfl)
    cases same
    exact ⟨rfl, pass, rfl, rfl⟩
  | _ => simp [Tail.events, Asking.events, lookedUp] at mem

/-- What must stand right before a repair request and before a report with a response. -/
def Preceded (earlier : List (Event ε)) : Event ε → Prop
  | .repair r _ =>
    ∃ before q pass ls, earlier =
        before ++ .lint q (.ok pass.lint) :: .report ⟨pass, none⟩ :: lookedUp ls ∧
      r.diagnostics = pass.diagnostics
  | .report ⟨_, some r⟩ =>
    ∃ before request, earlier = before ++ [.repair request (.ok r), .write r.source (.ok ())]
  | _ => True

theorem Asking.preceded (a : Asking ε) (x : Except ε Repair) (earlier : List (Event ε)) :
    Throughout Preceded earlier (a.events path q x) := by
  refine ⟨trivial, trivial, throughout_append.mpr ⟨throughout_of_forall ?_, ?_, trivial⟩⟩
  · intro e he earlier
    obtain ⟨l, -, rfl⟩ := List.mem_map.mp he
    trivial
  · exact ⟨earlier, q, a.pass, a.lookups, by simp, rfl⟩

theorem FullCycle.preceded (f : FullCycle ε) (earlier : List (Event ε)) :
    Throughout Preceded earlier (f.events path q) := by
  refine throughout_append.mpr ⟨f.asking.preceded _ earlier, trivial, ?_, trivial⟩
  obtain ⟨es, request, -, split⟩ := f.asking.exists_events_eq path q (.ok f.repair)
  exact ⟨earlier ++ es, request, by simp [split]⟩

theorem preceded_cycles (cycles : List (FullCycle ε)) (earlier : List (Event ε)) :
    Throughout Preceded earlier (cycles.flatMap (·.events path q)) := by
  induction cycles generalizing earlier with
  | nil => trivial
  | cons f cycles ih => exact throughout_append.mpr ⟨f.preceded earlier, ih _⟩

theorem Tail.preceded (t : Tail ε) (earlier : List (Event ε)) :
    Throughout Preceded earlier (t.events path q) := by
  cases t with
  | unrepaired a e => exact a.preceded _ earlier
  | unwritten a r e => exact throughout_append.mpr ⟨a.preceded _ earlier, trivial, trivial⟩
  | clean pass a => exact ⟨trivial, trivial, trivial, trivial⟩
  | spent pass => exact ⟨trivial, trivial, trivial⟩
  | unlinted e => exact ⟨trivial, trivial⟩
  | restored e text a => exact ⟨trivial, trivial, trivial⟩

theorem Word.preceded (w : Word ε) : Throughout Preceded [] (w.events path q) := by
  cases w with
  | unread e => exact ⟨trivial, trivial⟩
  | ended text cycles tail =>
    exact ⟨trivial, throughout_append.mpr ⟨preceded_cycles cycles _, tail.preceded _⟩⟩

/-- Every coherent word is in order. -/
theorem Word.orderly (path : String) (q : CommandRequest) {w : Word ε} (coherent : w.Coherent) :
    Orderly (w.events path q) where
  asked h := by
    have all : Throughout Preceded [] (w.events path q) := w.preceded
    rw [h] at all
    exact all.split
  answered h := by
    have all : Throughout Preceded [] (w.events path q) := w.preceded
    rw [h] at all
    exact all.split
  failed {earlier later e} h failed := by
    cases w with
    | unread f =>
      exact .inl (calm_nil.last h (.inl failed)).2.2
    | ended text cycles tail =>
      obtain ⟨mid, -, ht⟩ := (calm_begun path q text cycles).split h (.inl failed)
      exact (Tail.of_failed ht failed).imp_right fun found => ⟨q, found⟩
  formatted {earlier later x} h := by
    cases w with
    | unread f =>
      have mem : (.format x : Event ε) ∈ [.read (.error f)] := by
        rw [Word.events] at h
        simp [h]
      simp at mem
    | ended text cycles tail =>
      have calm := calm_begun path q text cycles
      obtain ⟨mid, rfl, ht⟩ := calm.split h (.inr rfl)
      obtain ⟨rfl, pass, rfl, rfl⟩ := Tail.of_formatted ht
      have before := calm.append (calm_pass q pass)
      refine ⟨rfl, ?_, _, q, pass, rfl, coherent.2.1⟩
      rw [List.countP_eq_zero]
      intro e he
      simp [(before e he).2]

theorem exists_lookedUp_eq {es : List (Event ε)} (h : ∀ e ∈ es, ∃ code a, e = .explain code a) :
    ∃ ls, es = lookedUp ls := by
  induction es with
  | nil => exact ⟨[], rfl⟩
  | cons e es ih =>
    obtain ⟨code, a, rfl⟩ := h e List.mem_cons_self
    obtain ⟨ls, rfl⟩ := ih fun x hx => h x (List.mem_cons_of_mem _ hx)
    exact ⟨(code, a) :: ls, rfl⟩

theorem textAfter_concat (text : String) (cycles : List (FullCycle ε)) (f : FullCycle ε) :
    textAfter text (cycles ++ [f]) = f.repair.source := by
  rw [textAfter, List.getLast?_concat, Option.map_some, Option.getD_some]

end Reading
end Words
end LintRepair
