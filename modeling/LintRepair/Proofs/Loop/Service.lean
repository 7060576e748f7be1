import LintRepair.Project.Repair
import LintRepair.Proofs.Agent.Repair
import LintRepair.Proofs.Loop.Invariant
import LintRepair.Proofs.Loop.Word

/-!
What a run writes when a completion service is asked for the repairs. Whatever the service replies,
every text written is a tidy source that it has just offered or, behind a failed lint, the text that
was committed before. A useless reply ends the run.
-/
namespace LintRepair

def Event.unrepaired {ε : Type} : Event ε → Bool
  | .repair _ (.error _) => true
  | _ => false

namespace Collaborators
variable {σ ε : Type}

/-- Repairs are asked of a service with these settings. What comes back may depend on anything. -/
structure Asks (c : Collaborators σ ε) (settings : Settings)
    (reply : RepairRequest → σ → Option Web.Reply) (failure : RepairError → ε) : Prop where
  repair : ∀ r s, (c.repair r s).1 = (settings.repairOf (reply r s)).mapError failure

theorem asks_project (p : Project) (u : Surroundings) :
    (p.collaborators u).Asks p.settings
      (fun r w => (w.network.send (p.settings.request r.prompt)).1) .repair where
  repair _ _ := rfl

def Stored (ms : List (Moment σ ε)) (text : String) : Prop :=
  Reply.Tidy text ∧ ∃ m ∈ ms, m.event = .write text (.ok ())

/-- Why a text may be written: a repair that has just been given offers it, or a lint has just failed
and it is the version before the last repair, found at the start or written before. -/
inductive Sourced (first : String) (earlier : List (Moment σ ε)) : String → Prop where
  | offered {before : List (Moment σ ε)} {t : σ} {request : RepairRequest} {r : Repair}
      (asked : earlier = before ++ [⟨t, .repair request (.ok r)⟩]) (tidy : Reply.Tidy r.source) :
      Sourced first earlier r.source
  | restored {before : List (Moment σ ε)} {t : σ} {q : CommandRequest} {e : ε} {text : String}
      (failed : earlier = before ++ [⟨t, .lint q (.error e)⟩])
      (committed : (texts first earlier).dropLast.getLast? = some text)
      (known : text = first ∨ Stored earlier text) : Sourced first earlier text

/-- What is written is sourced, given the calls before it. -/
def Sound (first : String) (earlier : List (Moment σ ε)) (m : Moment σ ε) : Prop :=
  match m.event with
  | .write text _ => Sourced first earlier text
  | _ => True

/-- How the versions stand between two passes: the last text is the current one, the one before it
is committed while the last is a candidate, and all but the first were written. -/
structure Draws (first : String) (q : Progress) (ms : List (Moment σ ε)) : Prop where
  current : (texts first ms).getLast? = some q.current.text
  committed : ∀ v, q.candidate = some v →
    (texts first ms).dropLast.getLast? = some q.committed.text
  known : ∀ text ∈ texts first ms, text = first ∨ Stored ms text
  sound : Throughout (Sound first) [] ms

variable {c : Collaborators σ ε} {settings : Settings}
variable {reply : RepairRequest → σ → Option Web.Reply} {failure : RepairError → ε}
variable {plan : LoopPlan} {p q q' : Progress} {first : String} {left n : Nat} {s t t' u : σ}
variable {ms new ends earlier later : List (Moment σ ε)}
variable {answer : Except (LoopError ε) LoopOutcome}

theorem Stored.mono {text : String} (stored : Stored ms text) (sub : ms ⊆ new) : Stored new text :=
  ⟨stored.1, stored.2.imp fun _ h => ⟨sub h.1, h.2⟩⟩

theorem Asks.tidy (asks : c.Asks settings reply failure) {request : RepairRequest} {r : Repair}
    (repaired : c.repair request s = (.ok r, t)) : Reply.Tidy r.source := by
  have answered := asks.repair request s
  rw [repaired] at answered
  rcases came : settings.repairOf (reply request s) with e | r'
  · rw [came] at answered
    cases answered
  · rw [came] at answered
    obtain rfl : r = r' := Except.ok.inj answered
    exact Settings.tidy_of_repairOf came

section Inquiry
variable {pass : Pass} {known : List Explanation} {lookups : Lookups}

theorem Inquiry.sound (h : Inquiry c plan p s pass new known lookups t) :
    Throughout (Sound first) ms new := by
  cases h with
  | found ran found explained =>
    refine ⟨trivial, trivial, throughout_of_forall fun m hm earlier => ?_⟩
    obtain ⟨code, a, he⟩ := event_of_mem_asked hm
    simp only [Sound, he]

theorem Inquiry.texts_eq (h : Inquiry c plan p s pass new known lookups t) :
    texts first (ms ++ new) = texts first ms := by
  rw [texts_append, h.repairs_eq]
  exact List.append_nil _

end Inquiry

theorem Draws.start : Draws first (.start first) [(⟨s, .read (.ok first)⟩ : Moment σ ε)] where
  current := rfl
  committed := nofun
  known _ mem := .inl (List.mem_singleton.mp mem)
  sound := ⟨trivial, trivial⟩

theorem Draws.round (draws : Draws first q ms) (asks : c.Asks settings reply failure)
    (round : Round c plan q t new q' t') : Draws first q' (ms ++ new) := by
  cases round with
  | @mended pass inquired known lookups r s₂ s₃ s₄ inquiry repaired written =>
    have tidy := asks.tidy repaired
    have grown (tail : List (Moment σ ε)) (once : tail.filterMap Moment.repair? = [r]) :
        texts first (ms ++ (inquired ++ tail)) = texts first ms ++ [r.source] := by
      rw [← List.append_assoc, texts_append, inquiry.texts_eq, once, List.map_singleton]
    constructor
    · rw [grown _ rfl, List.getLast?_concat]
      rfl
    · intro v hv
      rw [grown _ rfl, List.dropLast_concat]
      exact draws.current
    · intro text mem
      rw [grown _ rfl, List.mem_append, List.mem_singleton] at mem
      rcases mem with mem | rfl
      · exact (draws.known text mem).imp_right fun stored =>
          stored.mono (List.subset_append_left _ _)
      · exact .inr ⟨tidy, ⟨s₃, .write r.source (.ok ())⟩, by simp, rfl⟩
    · rw [throughout_append, throughout_append]
      exact ⟨draws.sound, inquiry.sound, trivial, .offered rfl tidy, trivial, trivial, trivial⟩

theorem Draws.rounds (draws : Draws first p ms) (asks : c.Asks settings reply failure)
    (rounds : Rounds c plan n p s new q t) : Draws first q (ms ++ new) := by
  induction rounds with
  | refl => rwa [List.append_nil]
  | tail before last ih =>
    rw [← List.append_assoc]
    exact (ih draws).round asks last

theorem Draws.sourced_committed (draws : Draws first q ms) {v : Version} {request : CommandRequest}
    {e : ε} (pending : q.candidate = some v) :
    Sourced first (ms ++ [⟨t, .lint request (.error e)⟩]) q.committed.text := by
  have same : texts first (ms ++ [⟨t, .lint request (.error e)⟩]) = texts first ms := by
    rw [texts_append, List.filterMap_cons_none rfl]
    exact List.append_nil _
  have committed := draws.committed v pending
  have known := draws.known _ (List.mem_of_mem_dropLast (List.mem_of_getLast? committed))
  refine .restored rfl (by rw [same, committed]) (known.imp_right fun stored => ?_)
  exact stored.mono (List.subset_append_left _ _)

theorem Draws.ending (draws : Draws first q ms) (asks : c.Asks settings reply failure)
    (ending : Ending c plan left q t ends answer u) : Throughout (Sound first) ms ends := by
  cases ending with
  | unlinted => exact ⟨trivial, trivial⟩
  | restored ran pending written =>
    exact ⟨trivial, draws.sourced_committed pending, trivial⟩
  | unrestored ran pending unwritten =>
    exact ⟨trivial, draws.sourced_committed pending, trivial⟩
  | clean => exact ⟨trivial, trivial, trivial, trivial, trivial⟩
  | spent => exact ⟨trivial, trivial, trivial, trivial⟩
  | unrepaired _ inquiry unrepaired =>
    rw [throughout_append]
    exact ⟨inquiry.sound, trivial, trivial⟩
  | unwritten _ inquiry repaired unwritten =>
    rw [throughout_append]
    exact ⟨inquiry.sound, trivial, .offered rfl (asks.tidy repaired), trivial⟩

theorem eq_last_of_concat {α : Type} {init earlier later : List α} {x y : α}
    (h : init ++ [y] = earlier ++ x :: later) (other : x ∉ init) : x = y ∧ later = [] := by
  rcases List.eq_nil_or_concat later with rfl | ⟨between, z, rfl⟩
  · obtain ⟨-, same⟩ := List.append_inj' h rfl
    exact ⟨(List.singleton_inj.mp same).symm, rfl⟩
  · have split : init ++ [y] = (earlier ++ x :: between) ++ [z] := by
      rw [h, List.concat_eq_append, List.append_assoc, List.cons_append]
    obtain ⟨same, -⟩ := List.append_inj' split rfl
    exact absurd (by rw [same]; simp) other

theorem sound_call {m : Moment σ ε} (asks : c.Asks settings reply failure)
    (split : c.history plan s = earlier ++ m :: later) (begun : m.event.isRead = false) :
    ∃ first, (c.read s).1 = .ok first ∧ Sound first earlier m := by
  revert split
  refine run_cases c plan s ?_ ?_
  · intro e t unread split
    obtain ⟨rfl, -⟩ := eq_last_of_concat split List.not_mem_nil
    cases begun
  · intro first n q s₁ t ms ends answer u read few rounds ending split
    refine ⟨first, by rw [read], ?_⟩
    have draws := (Draws.start (s := s)).rounds asks rounds
    have whole := throughout_append.mpr ⟨draws.sound, draws.ending asks ending⟩
    rw [List.append_assoc, List.singleton_append, split] at whole
    exact whole.split

section Failing

theorem Inquiry.answered {pass : Pass} {known : List Explanation} {lookups : Lookups}
    (h : Inquiry c plan p s pass new known lookups t) : ∀ m ∈ new, m.event.unrepaired = false := by
  cases h with
  | found ran found explained =>
    intro m hm
    rcases List.mem_cons.mp hm with rfl | hm
    · rfl
    rcases List.mem_cons.mp hm with rfl | hm
    · rfl
    · obtain ⟨code, a, he⟩ := event_of_mem_asked hm
      rw [he]
      rfl

theorem Rounds.answered (rounds : Rounds c plan n p s ms q t) :
    ∀ m ∈ ms, m.event.unrepaired = false := by
  induction rounds with
  | refl => nofun
  | tail before last ih =>
    cases last with
    | mended inquiry repaired written =>
      intro m hm
      rcases List.mem_append.mp hm with hm | hm
      · exact ih m hm
      rcases List.mem_append.mp hm with hm | hm
      · exact inquiry.answered m hm
      · simp only [List.mem_cons, List.not_mem_nil, or_false] at hm
        rcases hm with rfl | rfl | rfl | rfl <;> rfl

/-- Only the last call of a run can be a repair that failed, and its failure is the run's. -/
theorem Ending.exists_last (ending : Ending c plan left q t ends answer u) :
    ∃ init last, ends = init ++ [last] ∧ (∀ m ∈ init, m.event.unrepaired = false) ∧
      ∀ r e, last.event = .repair r (.error e) → answer = .error (.repair e) := by
  cases ending with
  | unlinted => exact ⟨[], _, rfl, nofun, nofun⟩
  | restored => exact ⟨[_], _, rfl, by simp [Event.unrepaired], nofun⟩
  | unrestored => exact ⟨[_], _, rfl, by simp [Event.unrepaired], nofun⟩
  | clean => exact ⟨[_, _, _], _, rfl, by simp [Event.unrepaired], nofun⟩
  | spent => exact ⟨[_, _], _, rfl, by simp [Event.unrepaired], nofun⟩
  | unrepaired _ inquiry unrepaired =>
    refine ⟨_, _, rfl, inquiry.answered, ?_⟩
    intro r e h
    cases h
    rfl
  | unwritten _ inquiry repaired unwritten =>
    refine ⟨_, _, List.append_cons .., ?_, ?_⟩
    · intro m hm
      rcases List.mem_append.mp hm with hm | hm
      · exact inquiry.answered m hm
      · rw [List.mem_singleton.mp hm]
        rfl
    · intro r e h
      cases h

/-- Nothing is called behind a repair that failed, and the run ends with its error. -/
theorem eq_nil_of_unrepaired {r : RepairRequest} {e : ε}
    (h : c.history plan s = earlier ++ ⟨t, .repair r (.error e)⟩ :: later) :
    later = [] ∧ (c.run plan s).1 = .error (.repair e) := by
  revert h
  refine run_cases c plan s ?_ ?_
  · intro e' t' unread h
    obtain ⟨same, -⟩ := eq_last_of_concat h (List.not_mem_nil)
    cases same
  · intro text n q s₁ t' ms ends answer u read few rounds ending h
    obtain ⟨init, last, rfl, answered, failed⟩ := ending.exists_last
    have other : (⟨t, .repair r (.error e)⟩ : Moment σ ε) ∉
        ⟨s, .read (.ok text)⟩ :: (ms ++ init) := by
      intro mem
      rcases List.mem_cons.mp mem with same | mem
      · cases same
      rcases List.mem_append.mp mem with mem | mem
      · cases rounds.answered _ mem
      · cases answered _ mem
    rw [← List.append_assoc, ← List.cons_append] at h
    obtain ⟨rfl, rfl⟩ := eq_last_of_concat h other
    exact ⟨rfl, failed r e rfl⟩

end Failing

/-- When a service is asked for repairs, whatever it replies, every text that a run writes is a
tidy source that the service has just offered, or the version committed before the last repair,
which is the text found at the start or a tidy text written before. After a useless reply nothing
is called, and the run ends with the service's error. -/
theorem run_sourced (plan : LoopPlan) (asks : c.Asks settings reply failure) (s : σ) :
    (∀ {earlier later t text a}, c.history plan s = earlier ++ ⟨t, .write text a⟩ :: later →
        ∃ first, (c.read s).1 = .ok first ∧ Sourced first earlier text) ∧
      ∀ {earlier later t r a}, c.history plan s = earlier ++ ⟨t, .repair r a⟩ :: later →
        settings.Useless (reply r t) →
          later = [] ∧ ∃ e, settings.repairOf (reply r t) = .error e ∧
            (c.run plan s).1 = .error (.repair (failure e)) := by
  constructor
  · intro earlier later t text a split
    exact sound_call asks split rfl
  · intro earlier later t r a split useless
    obtain ⟨e, failed⟩ := useless.repairOf
    have called : (⟨t, .repair r a⟩ : Moment σ ε) ∈ c.history plan s := by
      rw [split]
      simp
    have answered : a = .error (failure e) := by
      obtain ⟨_, made⟩ : ∃ u, Made c t (.repair r a) u := made_of_mem_history called
      cases made with
      | repair =>
        rw [asks.repair, failed]
        rfl
    subst answered
    obtain ⟨last, ended⟩ := eq_nil_of_unrepaired split
    exact ⟨last, e, failed, ended⟩

end Collaborators

namespace Lab

/-- A project without a journal that keeps so many bytes of output. -/
def project (limit : UInt64) : Project where
  root := ⟨"."⟩
  config :=
    { maxIterations := 3, lintTimeout := 5, agentTimeout := 5, outputLimit := limit,
      source := ⟨"main.rs"⟩, logIterations := false, lint := ⟨["lint"], []⟩, format := ["fmt"],
      agent := ⟨.openAi, "model", 100⟩ }
  settings := ⟨.openAi, "model", "key", 100, 5000, some "http://service"⟩

/-- Surroundings in which the lint commands do this, one after the other. -/
def surroundings (lints : List (Except SpawnError Execution)) : Surroundings where
  programs _ started words _ _ t :=
    (if words = ["lint"] then lints.getD (started.count words) (.ok {}) else .ok {}, t)
  runId := "run"

/-- A world with a source and with a service that has these replies left. -/
def world (source : String) (replies : List Web.Reply) : World where
  tree := ⟨[(["main.rs"], .file (utf8 source))]⟩
  network := { origin := some "http://service", replies := replies }

/-- A reply that offers a source without quotes in it. -/
def offer (source : String) : Web.Reply :=
  ⟨200, utf8 ("\x7b\"choices\":[\x7b\"message\":\x7b\"content\":\"" ++ source ++
    "\"\x7d\x7d]\x7d")⟩

def complaint : Execution :=
  { stderr := [utf8 "error[E1]: no x\n--> main.rs:1:1\n|\n"], ending := .exited 1 }

end Lab

namespace Collaborators

/-- The text found at the start gives way to a first source and that to a second one, which can not
be linted, so the first is written back. With a refusal in place of the second source the run ends
on that. -/
theorem run_sourced_unlinted :
    let p := Lab.project 1000
    let u := Lab.surroundings [.ok Lab.complaint, .ok Lab.complaint, .error (.file .notFound)]
    let served := Lab.world "f(x);" [Lab.offer "f(y);", Lab.offer "f(1);"]
    let refused := Lab.world "f(x);" [Lab.offer "f(y);", ⟨503, []⟩]
    let c := p.collaborators u
    let plan := LoopPlan.ofConfig p.root p.config
    let reply := fun (r : RepairRequest) (w : World) =>
      (w.network.send (p.settings.request r.prompt)).1
    c.Asks p.settings reply .repair ∧
      (∃ earlier t, c.history plan served = earlier ++ [⟨t, .write "f(y);\n" (.ok ())⟩] ∧
        Sourced "f(x);" earlier "f(y);\n") ∧
      (∃ earlier t r a, c.history plan refused = earlier ++ [⟨t, .repair r a⟩] ∧
        p.settings.Useless (reply r t)) ∧
      ∃ e, (c.run plan refused).1 = .error (.repair (.repair e)) := by
  intro p u served refused c plan reply
  have asks : c.Asks p.settings reply .repair := asks_project p u
  obtain ⟨⟨t, e⟩, ends, wrote⟩ : ∃ m, (c.history plan served).getLast? = some m ∧
      m.event = .write "f(y);\n" (.ok ()) := Option.map_eq_some_iff.mp (by decide +kernel)
  obtain rfl : e = .write "f(y);\n" (.ok ()) := wrote
  obtain ⟨earlier, split⟩ := List.getLast?_eq_some_iff.mp ends
  obtain ⟨first, read, sourced⟩ := (run_sourced plan asks served).1 split
  have found : (c.read served).1 = .ok "f(x);" := by decide +kernel
  obtain rfl := Except.ok.inj (found.symm.trans read)
  refine ⟨asks, ⟨earlier, t, split, sourced⟩, ?_⟩
  have asked : ((c.history plan refused).getLast?.bind fun m =>
      m.event.request?.map (reply · m.before)) = some (some ⟨503, []⟩) := by decide +kernel
  obtain ⟨⟨t', e'⟩, ends', came⟩ := Option.bind_eq_some_iff.mp asked
  cases e' with
  | repair r a =>
    obtain ⟨earlier', split'⟩ := List.getLast?_eq_some_iff.mp ends'
    have arrived : reply r t' = some ⟨503, []⟩ := Option.some.inj came
    have useless : p.settings.Useless (reply r t') := arrived ▸ .refused rfl
    obtain ⟨-, e, -, ended⟩ := (run_sourced plan asks refused).2 split' useless
    exact ⟨⟨earlier', t', r, a, split', useless⟩, e, ended⟩
  | _ => cases came

end Collaborators
end LintRepair
