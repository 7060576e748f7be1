import LintRepair.Loop.Journal
import LintRepair.Loop.RunId
import LintRepair.Proofs.Files.Tree
import LintRepair.Proofs.Loop.Invariant
import LintRepair.Proofs.Loop.Word
import Mathlib.Data.List.Nodup

/-!
What the journal of a run holds. Below the directory of the run there is one directory for each
cycle that was kept, with the files of its entry and nothing else, as long as every entry could be
written and no other call reaches in there.
-/
namespace LintRepair

namespace Path

theorem isName_toString (n : Nat) : IsName (toString n) := by
  have digits : ∀ c ∈ (toString n).toList, c.isDigit = true := by
    intro c hc
    rw [Nat.toString_eq_ofList_toDigits, String.toList_ofList] at hc
    exact Nat.isDigit_of_mem_toDigits (by decide) (by decide) hc
  have other {name : String} {c : Char} (mem : c ∈ name.toList) (sign : c.isDigit = false) :
      toString n ≠ name := by
    rintro rfl
    rw [digits c mem] at sign
    cases sign
  have filled : toString n ≠ "" := by
    rw [Nat.toString_eq_ofList_toDigits]
    intro empty
    have none := congrArg String.toList empty
    rw [String.toList_ofList] at none
    exact Nat.toDigits_ne_nil none
  constructor
  · intro mem
    cases digits '/' mem
  · rw [isIdle, decide_eq_false filled, decide_eq_false (other (c := '.') (by decide) rfl)]
    rfl
  · exact other (c := '.') (by decide) rfl

theorem isName_of_isRunId {s : String} (h : RunId.isRunId s = true) : IsName s := by
  rw [RunId.isRunId, Bool.and_eq_true, decide_eq_true_eq, List.all_eq_true] at h
  obtain ⟨length, form⟩ := h
  have other {name : String} (short : name.length < 20) : s ≠ name := by
    rintro rfl
    exact absurd length (Nat.ne_of_lt short)
  constructor
  · intro mem
    obtain ⟨i, inside, at_place⟩ := List.mem_iff_getElem.mp mem
    have inside' : i < RunId.form.toList.length := by
      rw [String.length_toList] at inside ⊢
      omega
    have sign := form (s.toList[i], RunId.form.toList[i])
      (List.mem_iff_getElem.mpr ⟨i, by simp; omega, by simp⟩)
    rw [at_place] at sign
    have none : (RunId.form.toList.all fun c =>
        !if c = '0' then '/'.isDigit else decide ('/' = c)) = true := by decide
    have refused := List.all_eq_true.mp none _ (List.getElem_mem inside')
    rw [sign] at refused
    cases refused
  · rw [isIdle, decide_eq_false (other (by decide)), decide_eq_false (other (by decide))]
    rfl
  · exact other (by decide)

theorem toString_inj {m n : Nat} (h : toString m = toString n) : m = n := by
  rw [Nat.toString_eq_ofList_toDigits, Nat.toString_eq_ofList_toDigits] at h
  have digits : Nat.toDigits 10 m = Nat.toDigits 10 n := by
    simpa using congrArg String.toList h
  have back := congrArg (Nat.ofDigitChars 10 · 0) digits
  simpa using back

end Path

namespace Entry

def name (e : Entry) : String := toString e.head.iter.toNat

/-- The names of an entry's files, with their texts. -/
def contents (e : Entry) : List (String × String) :=
  [("meta.json", e.head.toJson.pretty ++ "\n"), ("lint.log", e.lint.log),
    ("diagnostics.json", Diagnostic.listJsonText e.diagnostics ++ "\n")] ++
    match e.repair with
    | none => []
    | some r => [("response.md", r.raw), ("candidate.rs", r.source)]

/-- What an entry's directory holds, by the names that lead there. -/
def at? (e : Entry) : List String → Option Node
  | [] => some .directory
  | [name] => (e.contents.lookup name).map fun text => .file (utf8 text)
  | _ => none

theorem files_eq (e : Entry) (dir : Path) :
    e.files dir = e.contents.map fun f => ((e.places dir).dir.child f.1, f.2) := by
  obtain ⟨head, lint, diagnostics, repair⟩ := e
  cases repair <;>
    simp only [files, contents, places, CyclePlaces.of, List.map_append, List.map_cons,
      List.map_nil]

theorem isName_of_mem_contents {e : Entry} {f : String × String} (mem : f ∈ e.contents) :
    Path.IsName f.1 := by
  have names : ∀ name ∈ ["meta.json", "lint.log", "diagnostics.json", "response.md",
      "candidate.rs"], Path.IsName name := by
    simp only [List.forall_mem_cons]
    exact ⟨⟨by decide, by decide, by decide⟩, ⟨by decide, by decide, by decide⟩,
      ⟨by decide, by decide, by decide⟩, ⟨by decide, by decide, by decide⟩,
      ⟨by decide, by decide, by decide⟩, nofun⟩
  apply names
  obtain ⟨head, lint, diagnostics, repair⟩ := e
  cases repair
  · have mem := List.mem_map_of_mem (f := Prod.fst) mem
    exact List.mem_of_mem_take (i := 3) mem
  · exact List.mem_map_of_mem (f := Prod.fst) mem

theorem isName_name (e : Entry) : Path.IsName e.name := Path.isName_toString _

theorem nodup_contents (e : Entry) : (e.contents.map Prod.fst).Nodup := by
  obtain ⟨head, lint, diagnostics, repair⟩ := e
  cases repair
  · show ["meta.json", "lint.log", "diagnostics.json"].Nodup
    decide
  · show ["meta.json", "lint.log", "diagnostics.json", "response.md", "candidate.rs"].Nodup
    decide

end Entry

namespace Tree
open LintRepair.Path

variable {t u : Tree} {base run : List String} {dir : Path} {e : Entry} {es : List Entry}

theorem get?_writeAll {files : List (Path × String)} (h : t.writeAll base files = (.ok (), u))
    (distinct : (files.map fun f => f.1.key base).Nodup) (q : List String) :
    u.get? q =
      ((files.map fun f => (f.1.key base, Node.file (utf8 f.2))).lookup q).or (t.get? q) := by
  induction files generalizing t with
  | nil =>
    obtain rfl : t = u := (Prod.mk.inj h).2
    rfl
  | cons f files ih =>
    obtain ⟨p, text⟩ := f
    unfold writeAll at h
    split at h
    · cases h
    · rename_i after written
      rw [List.map_cons, List.nodup_cons] at distinct
      rw [ih h distinct.2, get?_writeText written, List.map_cons, List.lookup_cons]
      by_cases here : q = p.key base
      · have behind : (files.map fun f => (f.1.key base, Node.file (utf8 f.2))).lookup q = none := by
          rw [List.lookup_eq_none_iff]
          intro x hx
          obtain ⟨g, hg, rfl⟩ := List.mem_map.mp hx
          rw [bne_iff_ne, here]
          intro same
          exact distinct.1 (List.mem_map.mpr ⟨g, hg, same.symm⟩)
        rw [behind, Option.none_or, if_pos here, here, beq_self_eq_true]
        rfl
      · rw [if_neg here, beq_eq_false_iff_ne.mpr here]

theorem lookup_files (key : List String) (files : List (String × String)) (name : String) :
    (files.map fun f => (key ++ [f.1], Node.file (utf8 f.2))).lookup (key ++ [name]) =
      (files.lookup name).map fun text => .file (utf8 text) := by
  induction files with
  | nil => rfl
  | cons f files ih =>
    rw [List.map_cons, List.lookup_cons, List.lookup_cons, ih]
    by_cases here : name = f.1
    · rw [here, beq_self_eq_true, beq_self_eq_true]
      rfl
    · rw [beq_eq_false_iff_ne.mpr here, beq_eq_false_iff_ne.mpr (by simpa using here)]

theorem lookup_files_of_ne {key q : List String} (files : List (String × String))
    (other : ∀ name, q ≠ key ++ [name]) :
    (files.map fun f => (key ++ [f.1], Node.file (utf8 f.2))).lookup q = none := by
  rw [List.lookup_eq_none_iff]
  intro x hx
  obtain ⟨f, -, rfl⟩ := List.mem_map.mp hx
  exact bne_iff_ne.mpr (other f.1)

/-- The files of an entry lie in the directory that is named for its pass. -/
theorem map_files {β : Type} (led : (dir.child e.head.runId).key base = run)
    (g : List String → String → β) :
    (e.files dir).map (fun f => g (f.1.key base) f.2) =
      e.contents.map fun f => g (run ++ [e.name] ++ [f.1]) f.2 := by
  have inside : ((dir.child e.head.runId).child e.name).key base = run ++ [e.name] := by
    rw [key_child e.isName_name, led]
  rw [Entry.files_eq, List.map_map]
  refine List.map_congr_left fun f hf => ?_
  show g ((((dir.child e.head.runId).child e.name).child f.1).key base) f.2 = _
  rw [key_child (Entry.isName_of_mem_contents hf), inside]

theorem nodup_files (led : (dir.child e.head.runId).key base = run) :
    ((e.files dir).map fun f => f.1.key base).Nodup := by
  rw [map_files led fun k _ => k]
  show (e.contents.map ((fun n => run ++ [e.name] ++ [n]) ∘ Prod.fst)).Nodup
  rw [← List.map_map]
  refine e.nodup_contents.map fun m n same => ?_
  simpa using same

/-- Making the directory of an entry makes nothing else in the run's directory, as long as the way
there does not lead through it. -/
theorem mem_along_places (led : (dir.child e.head.runId).key base = run)
    (direct : ∀ k ∈ (dir.child e.head.runId).way base, run <+: k → k = run)
    (name : String) (rest : List String) :
    run ++ name :: rest ∈ (e.places dir).dir.way base ↔ name = e.name ∧ rest = [] := by
  have place : (e.places dir).dir = (dir.child e.head.runId).child e.name := rfl
  rw [place, way_child e.isName_name, led, List.mem_append, List.mem_singleton]
  constructor
  · rintro (mem | same)
    · have := direct _ mem (List.prefix_append _ _)
      simp at this
    · simpa using same
  · rintro ⟨rfl, rfl⟩
    exact .inr rfl

/-- Writing an entry touches nothing in the run's directory but the directory of the entry. -/
theorem get?_writeEntry (h : t.writeEntry base dir e = (.ok (), u))
    (led : (dir.child e.head.runId).key base = run)
    (direct : ∀ k ∈ (dir.child e.head.runId).way base, run <+: k → k = run)
    (name : String) (rest : List String) :
    u.get? (run ++ name :: rest) =
      if name = e.name then (e.at? rest).or (t.get? (run ++ name :: rest))
      else t.get? (run ++ name :: rest) := by
  unfold writeEntry at h
  split at h
  · cases h
  rename_i made
  have way := mem_along_places led direct name rest
  rw [get?_writeAll h (nodup_files led), map_files led fun k text => (k, Node.file (utf8 text)),
    get?_makeDirectories made]
  by_cases here : name = e.name
  · subst here
    rw [if_pos rfl]
    rcases rest with _ | ⟨file, _ | ⟨more, rest⟩⟩
    · rw [lookup_files_of_ne _ (by simp), if_pos (way.mpr ⟨rfl, rfl⟩)]
      rfl
    · have split : run ++ [e.name, file] = run ++ [e.name] ++ [file] := by simp
      rw [split, lookup_files, ← split, if_neg (by simp [way])]
      rfl
    · rw [lookup_files_of_ne _ (by simp), if_neg (by simp [way])]
      rfl
  · have other (file : String) : run ++ name :: rest ≠ run ++ [e.name] ++ [file] := by
      simp [here]
    rw [lookup_files_of_ne _ other, if_neg (by simp [way, here]), if_neg here]
    rfl

/-- The directory of a run is a fresh one: it holds nothing, and the way to it does not lead through
it. -/
structure Fresh (t : Tree) (base : List String) (run : Path) : Prop where
  empty : ∀ name rest, t.get? (run.key base ++ name :: rest) = none
  direct : ∀ k ∈ run.way base, run.key base <+: k → k = run.key base

/-- An empty directory is fresh if its name is a new one and the way to it starts outside of it. -/
theorem fresh_of_outside {name : String} (named : IsName name) (unnamed : name ∉ dir.segments)
    (outside : ¬ (dir.child name).key base <+: dir.start base)
    (empty : ∀ file rest, t.get? ((dir.child name).key base ++ file :: rest) = none) :
    t.Fresh base (dir.child name) := by
  refine ⟨empty, fun k hk inside => ?_⟩
  rw [way_child named, List.mem_append, List.mem_singleton] at hk
  rcases hk with hk | rfl
  · have last : ((dir.child name).key base).getLast? = some name := by
      rw [key_child named, List.getLast?_concat]
    exact absurd inside (not_prefix_of_mem_along last unnamed outside k hk)
  · exact (key_child named).symm

/-- The directory of a run holds exactly these entries. -/
structure HoldsJournal (t : Tree) (run : List String) (es : List Entry) : Prop where
  kept : ∀ e ∈ es, ∀ rest, t.get? (run ++ e.name :: rest) = e.at? rest
  nothing_else : ∀ name, (∀ e ∈ es, e.name ≠ name) → ∀ rest, t.get? (run ++ name :: rest) = none

/-- The directory of a run holds something by a name only if that is the name of an entry. -/
theorem HoldsJournal.get?_ne_none_iff (holds : t.HoldsJournal run es) (name : String) :
    t.get? (run ++ [name]) ≠ none ↔ ∃ e ∈ es, e.name = name := by
  constructor
  · intro some
    by_contra other
    refine some (holds.nothing_else name (fun e he same => ?_) [])
    exact other ⟨e, he, same⟩
  · rintro ⟨e, he, rfl⟩
    rw [holds.kept e he]
    exact nofun

theorem HoldsJournal.congr (holds : t.HoldsJournal run es)
    (same : ∀ name rest, u.get? (run ++ name :: rest) = t.get? (run ++ name :: rest)) :
    u.HoldsJournal run es where
  kept e he rest := (same _ _).trans (holds.kept e he rest)
  nothing_else name other rest := (same _ _).trans (holds.nothing_else name other rest)

theorem HoldsJournal.writeEntry (holds : t.HoldsJournal run es)
    (written : t.writeEntry base dir e = (.ok (), u)) (new : ∀ x ∈ es, x.name ≠ e.name)
    (led : (dir.child e.head.runId).key base = run)
    (direct : ∀ k ∈ (dir.child e.head.runId).way base, run <+: k → k = run) :
    u.HoldsJournal run (es ++ [e]) := by
  have now := get?_writeEntry written led direct
  constructor
  · intro x hx rest
    rcases List.mem_append.mp hx with hx | hx
    · rw [now, if_neg (new x hx)]
      exact holds.kept x hx rest
    · obtain rfl := List.mem_singleton.mp hx
      rw [now, if_pos rfl, holds.nothing_else _ new, Option.or_none]
  · intro name other rest
    have old : ∀ x ∈ es, x.name ≠ name := fun x hx => other x (List.mem_append_left _ hx)
    have latest : e.name ≠ name := other e (by simp)
    rw [now, if_neg latest.symm]
    exact holds.nothing_else name old rest

theorem HoldsJournal.keep {runId : String} {duration : Nat} {cycle : Cycle}
    (holds : t.HoldsJournal run es)
    (written : (t.writeEntry base dir (.ofCycle runId duration cycle)).1 = .ok ())
    (new : ∀ x ∈ es, x.name ≠ (Entry.ofCycle runId duration cycle).name)
    (led : (dir.child runId).key base = run)
    (direct : ∀ k ∈ (dir.child runId).way base, run <+: k → k = run) :
    (t.keep base (some dir) runId duration cycle).HoldsJournal run
      (es ++ [.ofCycle runId duration cycle]) := by
  rcases whole : t.writeEntry base dir (.ofCycle runId duration cycle) with ⟨done, after⟩
  rw [whole] at written
  obtain rfl : done = .ok () := written
  simp only [Tree.keep, whole]
  exact holds.writeEntry whole new led direct

end Tree

/-- The entry that a call keeps, if it keeps one. -/
def Moment.entry? {σ ε : Type} (runId : String) (duration : Cycle → σ → Nat) (m : Moment σ ε) :
    Option Entry :=
  match m.event with
  | .record cycle => some (.ofCycle runId (duration cycle m.before) cycle)
  | _ => none

/-- The entries that some calls keep, in their order. -/
def entriesOf {σ ε : Type} (runId : String) (duration : Cycle → σ → Nat)
    (ms : List (Moment σ ε)) : List Entry :=
  ms.filterMap (Moment.entry? runId duration)

namespace Collaborators
open LintRepair.Path LintRepair.Tree

variable {σ ε : Type}

/-- Cycles are kept in a journal, and no other call reaches into the directory of the run. -/
structure Journals (c : Collaborators σ ε) (tree : σ → Tree) (base : List String) (dir : Path)
    (runId : String) (duration : Cycle → σ → Nat) : Prop where
  record : ∀ cycle s, tree (c.record cycle s) =
    (tree s).keep base (some dir) runId (duration cycle s) cycle
  others : ∀ {s e t}, Made c s e t → e.isRecord = false → ∀ name rest,
    (tree t).get? ((dir.child runId).key base ++ name :: rest) =
      (tree s).get? ((dir.child runId).key base ++ name :: rest)

variable {c : Collaborators σ ε} {tree : σ → Tree} {base : List String} {dir : Path}
variable {runId : String} {duration : Cycle → σ → Nat} {plan : LoopPlan} {s : σ}

theorem entriesOf_append {ms new : List (Moment σ ε)} :
    entriesOf runId duration (ms ++ new) =
      entriesOf runId duration ms ++ entriesOf runId duration new := List.filterMap_append ..

/-- At the end of a run its directory holds the entries of the cycles that were kept, if all could
be written and have names of their own. -/
theorem holdsJournal_history (plan : LoopPlan) (journals : c.Journals tree base dir runId duration)
    (fresh : (tree s).Fresh base (dir.child runId))
    (written : ∀ m ∈ c.history plan s, ∀ e ∈ m.entry? runId duration,
      ((tree m.before).writeEntry base dir e).1 = .ok ())
    (distinct : ((entriesOf runId duration (c.history plan s)).map Entry.name).Nodup) :
    (tree (c.run plan s).2).HoldsJournal ((dir.child runId).key base)
      (entriesOf runId duration (c.history plan s)) := by
  refine history_induction (P := fun t ms =>
    (∀ m ∈ ms, ∀ e ∈ m.entry? runId duration,
      ((tree m.before).writeEntry base dir e).1 = .ok ()) →
    ((entriesOf runId duration ms).map Entry.name).Nodup →
    (tree t).HoldsJournal ((dir.child runId).key base) (entriesOf runId duration ms))
    ?_ ?_ plan written distinct
  · intro _ _
    exact ⟨nofun, fun name _ rest => fresh.empty name rest⟩
  · intro s ms e t ih made written distinct
    rw [entriesOf_append, List.map_append] at distinct
    have holds := ih (fun m hm => written m (List.mem_append_left _ hm)) distinct.of_append_left
    rw [entriesOf_append]
    by_cases kept : e.isRecord = true
    · cases made with
      | record cycle =>
        have done := written ⟨s, .record cycle⟩ (by simp) _ rfl
        have apart := List.disjoint_of_nodup_append distinct
        rw [journals.record]
        apply holds.keep done _ rfl fresh.direct
        intro x hx same
        exact apart (List.mem_map_of_mem hx) (same ▸ List.mem_cons_self)
      | _ => cases kept
    · have silent : entriesOf runId duration [(⟨s, e⟩ : Moment σ ε)] = [] := by
        cases e with
        | record => exact absurd rfl kept
        | _ => rfl
      rw [silent, List.append_nil]
      exact holds.congr (journals.others made (Bool.eq_false_iff.mpr kept))

end Collaborators
end LintRepair
