import LintRepair.Proofs.Loop.Handoff
import Mathlib.Data.List.Induction
import Mathlib.Data.List.Nodup

/-!
What a run looks up and what it passes on of it. Every code that is asked about is looked up once,
when it is first met, and what was found then is what each later request says about the code, be it
a text or nothing.
-/
namespace LintRepair

section Distinct
variable {α : Type} [BEq α] [LawfulBEq α] {l : List α} {a : α}

theorem eraseDups_concat_of_mem (h : a ∈ l) : (l ++ [a]).eraseDups = l.eraseDups := by
  simp [List.eraseDups_append, List.removeAll, h]

theorem eraseDups_concat_of_not_mem (h : a ∉ l) : (l ++ [a]).eraseDups = l.eraseDups ++ [a] := by
  simp [List.eraseDups_append, List.removeAll, h, List.eraseDups_cons]

theorem nodup_eraseDups (l : List α) : l.eraseDups.Nodup := by
  induction l using List.reverseRecOn with
  | nil => exact List.nodup_nil
  | append_singleton l a ih =>
    by_cases h : a ∈ l
    · rw [eraseDups_concat_of_mem h]
      exact ih
    · rw [eraseDups_concat_of_not_mem h]
      refine List.nodup_append.mpr ⟨ih, by simp, ?_⟩
      intro x hx y hy
      rw [List.mem_singleton.mp hy]
      rintro rfl
      exact h (List.mem_eraseDups.mp hx)

end Distinct

/-- A lookup with what it found. A failed one found nothing. -/
def Event.lookup? {ε : Type} : Event ε → Option (String × Option String)
  | .explain code a => some (code, a.toOption.join)
  | _ => none

/-- The lookups among some calls, in their order. -/
def lookupsOf {ε : Type} (es : List (Event ε)) : Lookups := es.filterMap Event.lookup?

/-- The repair requests among some calls, in their order. -/
def requestsOf {ε : Type} (es : List (Event ε)) : List RepairRequest := es.filterMap Event.request?

section Append
variable {ε : Type} {es es' : List (Event ε)}

theorem lookupsOf_append : lookupsOf (es ++ es') = lookupsOf es ++ lookupsOf es' :=
  List.filterMap_append ..

theorem requestsOf_append : requestsOf (es ++ es') = requestsOf es ++ requestsOf es' :=
  List.filterMap_append ..

end Append

def RepairRequest.codes (r : RepairRequest) : List String := r.diagnostics.map (·.code)

/-- The explanations of distinct codes in the order of their first occurrence, as far as texts are
known. -/
def explained (known : Lookups) (codes : List String) : List Explanation :=
  codes.eraseDups.filterMap fun code => (known.lookup code).join.map (Explanation.mk code)

section Explained
variable {known more : Lookups} {codes : List String} {code : String} {x : Explanation}

theorem lookup_isSome_iff_mem : (known.lookup code).isSome ↔ code ∈ known.map Prod.fst := by
  rw [List.lookup_isSome_iff, List.mem_map]
  refine exists_congr fun p => and_congr_right fun _ => ?_
  rw [beq_iff_eq, eq_comm]

theorem lookup_middle {text : Option String} (h : code ∉ known.map Prod.fst) :
    (known ++ (code, text) :: more).lookup code = some text := by
  rw [← lookup_isSome_iff_mem, Option.not_isSome_iff_eq_none] at h
  rw [List.lookup_append, h, Option.none_or, List.lookup_cons_self]

theorem explained_concat_of_mem (h : code ∈ codes) :
    explained known (codes ++ [code]) = explained known codes := by
  rw [explained, eraseDups_concat_of_mem h, explained]

theorem explained_concat_of_not_mem (h : code ∉ codes) :
    explained known (codes ++ [code]) =
      explained known codes ++ ((known.lookup code).join.map (Explanation.mk code)).toList := by
  rw [explained, eraseDups_concat_of_not_mem h, List.filterMap_append, ← explained]
  congr 1

theorem mem_explained :
    x ∈ explained known codes ↔ x.code ∈ codes ∧ known.lookup x.code = some (some x.text) := by
  simp only [explained, List.mem_filterMap, List.mem_eraseDups, Option.map_eq_some_iff,
    Option.join_eq_some_iff]
  constructor
  · rintro ⟨code, mem, text, found, rfl⟩
    exact ⟨mem, found⟩
  · rintro ⟨mem, found⟩
    exact ⟨x.code, mem, x.text, found, rfl⟩

example : explained [("E1", some "a"), ("E2", none)] ["E2", "E1", "E3", "E1"] = [⟨"E1", "a"⟩] := by
  decide

/-- Later lookups do not matter to codes that were looked up. -/
theorem explained_append (h : ∀ code ∈ codes, code ∈ known.map Prod.fst) :
    explained (known ++ more) codes = explained known codes := by
  refine List.filterMap_congr fun code hc => ?_
  obtain ⟨text, found⟩ := Option.isSome_iff_exists.mp
    (lookup_isSome_iff_mem.mpr (h code (List.mem_eraseDups.mp hc)))
  rw [List.lookup_append, found, Option.some_or]

end Explained

namespace Collaborators
variable {σ ε : Type}

/-- How a pass stands in its lookups. `first` was known before the pass, `past` are the codes of all
passes so far, this one included, and `codes` are its own. -/
structure Gathers (first known : Lookups) (past codes : List String) (gathered : List Explanation)
    (ms : List (Moment σ ε)) : Prop where
  noted : known = first ++ lookupsOf (ms.reverse.map Moment.event)
  keys : known.map Prod.fst = past.eraseDups
  seen : ∀ code ∈ codes, code ∈ past
  texts : gathered = explained known codes

section Gathers
variable {c : Collaborators σ ε} {first known : Lookups} {past codes : List String}
variable {gathered : List Explanation} {ms : List (Moment σ ε)} {code : String} {s : σ}

theorem Gathers.seen_concat (gathers : Gathers first known past codes gathered ms) :
    ∀ x ∈ codes ++ [code], x ∈ past ++ [code] := by
  intro x hx
  rw [List.mem_append] at hx ⊢
  exact hx.imp_left (gathers.seen x)

theorem Gathers.mem_keys (gathers : Gathers first known past codes gathered ms) :
    code ∈ known.map Prod.fst ↔ code ∈ past := by
  rw [gathers.keys, List.mem_eraseDups]

theorem Gathers.again (gathers : Gathers first known past codes gathered ms)
    (mem : gathered.any (·.code = code)) :
    Gathers first known (past ++ [code]) (codes ++ [code]) gathered ms := by
  obtain ⟨x, hx, same⟩ := List.any_eq_true.mp mem
  obtain rfl : x.code = code := by simpa using same
  rw [gathers.texts] at hx
  have old := (mem_explained.mp hx).1
  exact {
    noted := gathers.noted
    keys := by rw [eraseDups_concat_of_mem (gathers.seen _ old), gathers.keys]
    seen := gathers.seen_concat
    texts := by rw [explained_concat_of_mem old, gathers.texts] }

/-- A code that was looked up before and is not explained in this pass yet. -/
theorem Gathers.remember (gathers : Gathers first known past codes gathered ms)
    (new : ¬ gathered.any (·.code = code)) {text : Option String}
    (found : known.lookup code = some text) :
    Gathers first known (past ++ [code]) (codes ++ [code])
      (gathered ++ (text.map (Explanation.mk code)).toList) ms where
  noted := gathers.noted
  keys := by
    have old : code ∈ past := gathers.mem_keys.mp (lookup_isSome_iff_mem.mp (by simp [found]))
    rw [eraseDups_concat_of_mem old, gathers.keys]
  seen := gathers.seen_concat
  texts := by
    by_cases mem : code ∈ codes
    · cases text with
      | none =>
        rw [explained_concat_of_mem mem, gathers.texts]
        exact List.append_nil _
      | some text =>
        refine absurd (List.any_eq_true.mpr ⟨⟨code, text⟩, ?_, by simp⟩) new
        rw [gathers.texts]
        exact mem_explained.mpr ⟨mem, found⟩
    · rw [explained_concat_of_not_mem mem, gathers.texts, found, Option.join_some]

theorem Gathers.ask (gathers : Gathers first known past codes gathered ms)
    (unknown : known.lookup code = none) (s : σ) (a : Except ε (Option String)) :
    Gathers first (known ++ [(code, a.toOption.join)]) (past ++ [code]) (codes ++ [code])
      (gathered ++ (a.toOption.join.map (Explanation.mk code)).toList)
      (⟨s, .explain code a⟩ :: ms) := by
  have new : code ∉ past := by
    rw [← gathers.mem_keys, ← lookup_isSome_iff_mem, unknown]
    exact Bool.false_ne_true
  have kept : ∀ x ∈ codes, x ∈ known.map Prod.fst := fun x hx =>
    gathers.mem_keys.mpr (gathers.seen x hx)
  have found : (known ++ [(code, a.toOption.join)]).lookup code = some a.toOption.join := by
    rw [List.lookup_append, unknown, Option.none_or, List.lookup_cons_self]
  exact {
    noted := by
      rw [gathers.noted, List.reverse_cons, List.map_append, lookupsOf_append, List.append_assoc]
      rfl
    keys := by rw [eraseDups_concat_of_not_mem new, List.map_append, gathers.keys]; rfl
    seen := gathers.seen_concat
    texts := by
      rw [explained_concat_of_not_mem fun mem => new (gathers.seen code mem), explained_append kept,
        found, gathers.texts, Option.join_some] }

theorem lookUp_of_some {q : CommandRequest} {text : Option String}
    (h : known.lookup code = some text) : c.lookUp q known code s = (text, known, s) := by
  unfold lookUp
  rw [h]

theorem chronicled_lookUp_of_none {q : CommandRequest} (h : known.lookup code = none) :
    c.chronicled.lookUp q known code (s, ms) =
      ((c.explain code q s).1.toOption.join,
        known ++ [(code, (c.explain code q s).1.toOption.join)], (c.explain code q s).2,
        ⟨s, .explain code (c.explain code q s).1⟩ :: ms) := by
  unfold lookUp
  rw [h]
  simp only [chronicled, dated]
  cases (c.explain code q s).1 <;> rfl

theorem Gathers.explanationsAfter (gathers : Gathers first known past codes gathered ms)
    (c : Collaborators σ ε) (q : CommandRequest) (ds : List Diagnostic) (s : σ) :
    Gathers first (c.chronicled.explanationsAfter q gathered known ds (s, ms)).2.1
      (past ++ ds.map (·.code)) (codes ++ ds.map (·.code))
      (c.chronicled.explanationsAfter q gathered known ds (s, ms)).1
      (c.chronicled.explanationsAfter q gathered known ds (s, ms)).2.2.2 := by
  induction ds generalizing known past codes gathered ms s with
  | nil => simpa [Collaborators.explanationsAfter] using gathers
  | cons d ds ih =>
    rw [List.map_cons, List.append_cons past, List.append_cons codes]
    simp only [Collaborators.explanationsAfter]
    split
    · next mem => exact ih (gathers.again mem) s
    · next new =>
      cases known_code : known.lookup d.code with
      | some text =>
        rw [lookUp_of_some known_code]
        have remembered := gathers.remember new known_code
        cases text with
        | none => exact ih (List.append_nil gathered ▸ remembered) s
        | some text => exact ih remembered s
      | none =>
        rw [chronicled_lookUp_of_none known_code]
        have ask := gathers.ask known_code s (c.explain d.code q s).1
        generalize (c.explain d.code q s).1.toOption.join = text at ask
        cases text with
        | none => exact ih (List.append_nil gathered ▸ ask) _
        | some text => exact ih ask _

theorem gathers_asked {q : CommandRequest} {ds : List Diagnostic} {texts : List Explanation}
    {lookups : Lookups} {t : σ} (keys : known.map Prod.fst = past.eraseDups)
    (explained : c.explanations q known ds s = (texts, lookups, t)) :
    Gathers known lookups (past ++ ds.map (·.code)) (ds.map (·.code)) texts
      (c.asked q known ds s).reverse := by
  have start : Gathers known known past [] [] ([] : List (Moment σ ε)) :=
    ⟨(List.append_nil known).symm, keys, nofun, rfl⟩
  have gathers := start.explanationsAfter c q ds s
  have chronicled := chronicled_explanations explained []
  rw [explanations, List.append_nil] at chronicled
  rw [chronicled] at gathers
  exact gathers

theorem requestsOf_asked {q : CommandRequest} {ds : List Diagnostic} :
    requestsOf ((c.asked q known ds s).map Moment.event) = [] := by
  refine List.filterMap_eq_nil_iff.mpr fun e he => ?_
  obtain ⟨m, hm, rfl⟩ := List.mem_map.mp he
  obtain ⟨code, a, event⟩ := event_of_mem_asked hm
  rw [event]
  rfl

end Gathers

/-- The codes that were asked about are looked up, and the requests carry what was found. -/
structure Explains (es : List (Event ε)) : Prop where
  keys : (lookupsOf es).map Prod.fst = ((requestsOf es).flatMap RepairRequest.codes).eraseDups
  texts : ∀ r ∈ requestsOf es, r.explanations = explained (lookupsOf es) r.codes

variable {c : Collaborators σ ε} {plan : LoopPlan} {p q q' : Progress} {text : String}
variable {left n : Nat} {s t t' u : σ} {ms new ends : List (Moment σ ε)} {es es' : List (Event ε)}

theorem Explains.append (explains : Explains es) (es' : List (Event ε)) (lookups : lookupsOf es' = [])
    (requests : requestsOf es' = []) :
    Explains (es ++ es') ∧ lookupsOf (es ++ es') = lookupsOf es := by
  have same : lookupsOf (es ++ es') = lookupsOf es := by
    rw [lookupsOf_append, lookups, List.append_nil]
  have same' : requestsOf (es ++ es') = requestsOf es := by
    rw [requestsOf_append, requests, List.append_nil]
  refine ⟨⟨?_, ?_⟩, same⟩
  · rw [same, same']
    exact explains.keys
  · rw [same, same']
    exact explains.texts

theorem Explains.request (explains : Explains es) (r : RepairRequest) {first known : Lookups}
    (gathers : Gathers first known (((requestsOf es).flatMap RepairRequest.codes) ++ r.codes) r.codes
      r.explanations ms)
    (noted : first = lookupsOf es) (lookups : lookupsOf (es ++ es') = known)
    (requests : requestsOf (es ++ es') = requestsOf es ++ [r]) : Explains (es ++ es') := by
  constructor
  · rw [lookups, requests, gathers.keys, List.flatMap_append, List.flatMap_singleton]
  · rw [lookups, requests]
    intro r' hr
    rcases List.mem_append.mp hr with old | new
    · rw [gathers.noted, noted, explains.texts r' old]
      refine (explained_append fun code hc => ?_).symm
      rw [explains.keys, List.mem_eraseDups]
      exact List.mem_flatMap.mpr ⟨r', old, hc⟩
    · rw [List.mem_singleton.mp new]
      exact gathers.texts

theorem Inquiry.requestsOf_eq {pass : Pass} {known : List Explanation} {lookups : Lookups}
    (inquiry : Inquiry c plan p s pass ms known lookups t) :
    requestsOf (ms.map Moment.event) = [] := by
  cases inquiry with
  | found linted found explained => exact requestsOf_asked

theorem Inquiry.explains {pass : Pass} {known : List Explanation} {lookups : Lookups}
    (explains : Explains es) (noted : p.lookups = lookupsOf es)
    (inquiry : Inquiry c plan p s pass ms known lookups t) (path source : String)
    (answer : Except ε Repair) :
    Explains (es ++
        (ms.map Moment.event ++ [.repair ⟨path, source, pass.diagnostics, known⟩ answer])) ∧
      lookups = lookupsOf (es ++
        (ms.map Moment.event ++ [.repair ⟨path, source, pass.diagnostics, known⟩ answer])) := by
  have quiet := inquiry.requestsOf_eq
  cases inquiry with
  | @found lint s₁ _ _ _ linted found explained =>
    have gathers := gathers_asked (noted ▸ explains.keys) explained
    generalize c.asked plan.request p.lookups (p.pass lint).diagnostics
      (c.report ⟨p.pass lint, none⟩ s₁) = asked at gathers quiet
    generalize hr : RepairRequest.mk path source (p.pass lint).diagnostics known = r
    generalize hes : ((⟨s, .lint plan.request (.ok lint)⟩ : Moment σ ε) ::
      ⟨s₁, .report ⟨p.pass lint, none⟩⟩ :: asked).map Moment.event ++ [.repair r answer] = es'
    have lookups_eq : lookupsOf (es ++ es') = lookups := by
      rw [gathers.noted, List.reverse_reverse, noted, lookupsOf_append, ← hes, lookupsOf_append]
      exact congrArg _ (List.append_nil _)
    have requests_eq : requestsOf (es ++ es') = requestsOf es ++ [r] := by
      rw [requestsOf_append, ← hes, requestsOf_append]
      exact congrArg (fun old => requestsOf es ++ (old ++ [r])) quiet
    subst hr
    exact ⟨explains.request _ gathers noted lookups_eq requests_eq, lookups_eq.symm⟩

theorem Round.explains (explains : Explains es) (noted : q.lookups = lookupsOf es)
    (round : Round c plan q t new q' t') :
    Explains (es ++ new.map Moment.event) ∧ q'.lookups = lookupsOf (es ++ new.map Moment.event) := by
  cases round with
  | @mended pass inquired known lookups r s₂ s₃ s₄ inquiry repaired written =>
    obtain ⟨asked, lookups_eq⟩ := inquiry.explains explains noted c.path q.current.text (.ok r)
    obtain ⟨after, same⟩ := asked.append [.write r.source (.ok ()), .record ⟨pass, some r⟩,
      .report ⟨pass, some r⟩] rfl rfl
    rw [List.append_assoc, List.append_assoc] at after same
    rw [List.map_append]
    exact ⟨after, lookups_eq.trans same.symm⟩

theorem Rounds.explains (rounds : Rounds c plan n (.start text) s ms q t) :
    Explains (ms.map Moment.event) ∧ q.lookups = lookupsOf (ms.map Moment.event) := by
  generalize hp : Progress.start text = p at rounds
  induction rounds with
  | refl p s =>
    subst hp
    exact ⟨⟨rfl, nofun⟩, rfl⟩
  | tail before last ih =>
    obtain ⟨explains, noted⟩ := ih hp
    rw [List.map_append]
    exact last.explains explains noted

theorem Ending.explains {answer : Except (LoopError ε) LoopOutcome} (explains : Explains es)
    (noted : q.lookups = lookupsOf es) (ending : Ending c plan left q t ends answer u) :
    Explains (es ++ ends.map Moment.event) := by
  cases ending with
  | unrepaired _ inquiry unrepaired =>
    rw [List.map_append]
    exact (inquiry.explains explains noted c.path q.current.text _).1
  | @unwritten _ _ pass inquired known lookups r _ s₂ s₃ s₄ e inquiry repaired unwritten =>
    have asked := (inquiry.explains explains noted c.path q.current.text (.ok r)).1
    have after := (asked.append [.write r.source (.error e)] rfl rfl).1
    rw [List.append_assoc, List.append_assoc] at after
    rw [List.map_append]
    exact after
  | _ => exact (explains.append _ rfl rfl).1

theorem Round.requested (round : Round c plan q t new q' t') :
    (requestsOf (new.map Moment.event)).map (·.diagnostics) =
      (new.map Moment.event).filterMap Event.found? := by
  cases round with
  | mended inquiry repaired written =>
    rw [List.map_append, requestsOf_append, inquiry.requestsOf_eq, List.filterMap_append,
      inquiry.tally.1.found]
    rfl

theorem Rounds.requested (rounds : Rounds c plan n p s ms q t) :
    (requestsOf (ms.map Moment.event)).map (·.diagnostics) =
      (ms.map Moment.event).filterMap Event.found? := by
  induction rounds with
  | refl => rfl
  | tail before last ih =>
    rw [List.map_append, requestsOf_append, List.map_append, ih, last.requested,
      List.filterMap_append]

theorem take_filter_of_ne_nil (left : Nat) {ds : List Diagnostic} (h : ds ≠ []) :
    ([ds].filter (!·.isEmpty)).take (left + 1) = [ds] := by
  simp [h]

/-- An ending asks about what its lint found, if that is something and a repair may be made. -/
theorem Ending.requested {answer : Except (LoopError ε) LoopOutcome}
    (ending : Ending c plan left q t ends answer u) :
    (requestsOf (ends.map Moment.event)).map (·.diagnostics) =
      (((ends.map Moment.event).filterMap Event.found?).filter (!·.isEmpty)).take left := by
  cases ending with
  | unlinted => exact List.take_nil.symm
  | restored => exact List.take_nil.symm
  | unrestored => exact List.take_nil.symm
  | @clean _ _ lint s s₁ s₂ a linted clean formatted =>
    have nothing : Diagnostic.extract lint.stderr = [] := clean
    show [] = List.take left (List.filter (!·.isEmpty) [Diagnostic.extract lint.stderr])
    rw [nothing]
    exact List.take_nil.symm
  | spent linted found => rfl
  | unrepaired left inquiry unrepaired =>
    rw [List.map_append, requestsOf_append, inquiry.requestsOf_eq, List.filterMap_append,
      inquiry.tally.1.found]
    exact (take_filter_of_ne_nil left inquiry.tally.2).symm
  | unwritten left inquiry repaired unwritten =>
    rw [List.map_append, requestsOf_append, inquiry.requestsOf_eq, List.filterMap_append,
      inquiry.tally.1.found]
    exact (take_filter_of_ne_nil left inquiry.tally.2).symm

/-- What a run looks up and passes on. -/
structure LooksUp (plan : LoopPlan) (es : List (Event ε)) : Prop where
  /-- A repair is asked for about what each lint found, where that is something and the budget
  lasts. -/
  reached : (requestsOf es).map (·.diagnostics) =
    ((es.filterMap Event.found?).filter (!·.isEmpty)).take plan.maxIterations.toNat
  /-- The codes of all these diagnostics are looked up once each, in the order of their first
  occurrence. -/
  once : (lookupsOf es).map Prod.fst = ((requestsOf es).flatMap RepairRequest.codes).eraseDups
  /-- A request explains its codes in their order, each by the one lookup of it in the run, where
  that gave a text. -/
  texts : ∀ r ∈ requestsOf es, r.explanations = explained (lookupsOf es) r.codes
  /-- A code is not looked up again, and without a text it stays unexplained. -/
  final : ∀ {earlier later code a}, es = earlier ++ .explain code a :: later →
    (∀ b, .explain code b ∉ later) ∧
      (a.toOption.join = none → ∀ r ∈ requestsOf es, ∀ x ∈ r.explanations, x.code ≠ code)

theorem Explains.final (explains : Explains es) {earlier later : List (Event ε)} {code : String}
    {a : Except ε (Option String)} (split : es = earlier ++ .explain code a :: later) :
    (∀ b, .explain code b ∉ later) ∧
      (a.toOption.join = none → ∀ r ∈ requestsOf es, ∀ x ∈ r.explanations, x.code ≠ code) := by
  have distinct : ((lookupsOf es).map Prod.fst).Nodup := explains.keys ▸ nodup_eraseDups _
  have lookups : lookupsOf es = lookupsOf earlier ++ (code, a.toOption.join) :: lookupsOf later := by
    rw [split, lookupsOf_append]
    rfl
  rw [lookups, List.map_append, List.map_cons, List.nodup_middle, List.nodup_cons,
    List.mem_append, not_or] at distinct
  obtain ⟨⟨before, behind⟩, -⟩ := distinct
  constructor
  · intro b again
    refine behind (List.mem_map.mpr ⟨(code, b.toOption.join), ?_, rfl⟩)
    exact List.mem_filterMap.mpr ⟨_, again, rfl⟩
  · intro nothing r hr x hx same
    rw [explains.texts r hr] at hx
    have found := (mem_explained.mp hx).2
    rw [same, lookups, lookup_middle before, nothing] at found
    cases found

/-- Each code that a run asks about is looked up once, and what was found then, a text or nothing,
is what the run passes on about it to the end. -/
theorem run_looksUp (c : Collaborators σ ε) (plan : LoopPlan) (s : σ) :
    LooksUp plan (c.events plan s) := by
  rw [events_eq_map_history]
  refine run_cases c plan s ?_ ?_
  · intro e t unread
    have explains : Explains [(.read (.error e) : Event ε)] := ⟨rfl, nofun⟩
    exact ⟨List.take_nil.symm, explains.keys, explains.texts, explains.final⟩
  · intro text n q s₁ t ms ends answer u read few rounds ending
    obtain ⟨explained, noted⟩ := rounds.explains
    have behind := ending.explains explained noted
    rw [← List.map_append] at behind
    have explains : Explains (.read (.ok text) :: (ms ++ ends).map Moment.event) :=
      ⟨behind.keys, behind.texts⟩
    refine ⟨?_, explains.keys, explains.texts, explains.final⟩
    obtain ⟨fs, tally, length, found⟩ := rounds.tally
    have all : fs.take plan.maxIterations.toNat = fs := List.take_of_length_le (length ▸ few)
    have nonempty : fs.filter (!·.isEmpty) = fs :=
      List.filter_eq_self.mpr fun ds hds => by simp [found ds hds]
    show (requestsOf ((ms ++ ends).map Moment.event)).map (·.diagnostics) =
      ((((ms ++ ends).map Moment.event).filterMap Event.found?).filter (!·.isEmpty)).take
        plan.maxIterations.toNat
    rw [List.map_append, requestsOf_append, List.map_append, rounds.requested, ending.requested,
      List.filterMap_append, List.filter_append, tally.found, nonempty, List.take_append, length, all]

end Collaborators
end LintRepair
