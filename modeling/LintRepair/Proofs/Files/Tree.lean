import LintRepair.Files.Tree
import Mathlib.Data.List.Infix

/-!
What is in a tree after directories were made and files were written. Where a path leads is a matter
of its text once the operation has succeeded, so a tree is known key by key.
-/
namespace LintRepair

namespace Path
open Text

/-- The name is a part of a path that names something below. -/
structure IsName (name : String) : Prop where
  uncut : '/' ∉ name.toList
  named : isIdle name = false
  below : name ≠ ".."

/-- The key that one more segment leads to. -/
def step (key : List String) (segment : String) : List String :=
  if isIdle segment then key else if segment = ".." then key.dropLast else key ++ [segment]

def key (base : List String) (p : Path) : List String := p.segments.foldl step (p.start base)

/-- The keys that segments lead down to, one after the other. -/
def along : List String → List String → List (List String)
  | _, [] => []
  | key, segment :: more =>
    if isIdle segment then along key more
    else if segment = ".." then along key.dropLast more
    else (key ++ [segment]) :: along (key ++ [segment]) more

/-- The keys that a path leads down to, one after the other. -/
def way (base : List String) (p : Path) : List (List String) := along (p.start base) p.segments

variable {base key k : List String} {segments more : List String} {name : String} {p q : Path}

theorem isAbsolute_join (relative : q.isAbsolute = false) :
    (p.join q).isAbsolute = p.isAbsolute := by
  unfold join
  rw [if_neg (by simp [relative])]
  cases start : p.text.toList with
  | nil => simpa [isAbsolute, start] using relative
  | cons c cs => split <;> simp [isAbsolute, start]

theorem isAbsolute_of_uncut (uncut : '/' ∉ name.toList) : isAbsolute ⟨name⟩ = false := by
  rw [isAbsolute, decide_eq_false_iff_not]
  exact fun first => uncut (List.mem_of_head? first)

theorem isAbsolute_child (uncut : '/' ∉ name.toList) :
    (p.child name).isAbsolute = p.isAbsolute :=
  isAbsolute_join (isAbsolute_of_uncut uncut)

theorem start_child (uncut : '/' ∉ name.toList) : (p.child name).start base = p.start base := by
  rw [start, start, isAbsolute_child uncut]

theorem IsName.step (h : IsName name) (key : List String) : step key name = key ++ [name] := by
  rw [Path.step, if_neg (by simp [h.named]), if_neg h.below]

theorem IsName.along (h : IsName name) (key : List String) :
    along key [name] = [key ++ [name]] := by
  rw [Path.along, if_neg (by simp [h.named]), if_neg h.below, Path.along]

theorem foldl_step_of_idle (idle : ∀ s ∈ segments, isIdle s = true) :
    segments.foldl step key = key := by
  induction segments with
  | nil => rfl
  | cons s segments ih =>
    rw [List.foldl_cons, step, if_pos (idle s List.mem_cons_self)]
    exact ih fun x hx => idle x (List.mem_cons_of_mem s hx)

theorem along_of_idle (idle : ∀ s ∈ segments, isIdle s = true) : along key segments = [] := by
  induction segments with
  | nil => rfl
  | cons s segments ih =>
    rw [along, if_pos (idle s List.mem_cons_self)]
    exact ih fun x hx => idle x (List.mem_cons_of_mem s hx)

theorem along_append :
    along key (segments ++ more) = along key segments ++ along (segments.foldl step key) more := by
  induction segments generalizing key with
  | nil => rfl
  | cons s segments ih =>
    rw [List.cons_append, along, along, List.foldl_cons, step]
    split
    · exact ih
    · split
      · exact ih
      · rw [ih, List.cons_append]

/-- A child has one segment more, in place of an idle one at the end if there is one. -/
theorem exists_segments_child (p : Path) (uncut : '/' ∉ name.toList) :
    ∃ front idle, p.segments = front ++ idle ∧ (∀ s ∈ idle, isIdle s = true) ∧
      (p.child name).segments = front ++ [name] := by
  have relative := isAbsolute_of_uncut uncut
  have single : split '/' name.toList = [name.toList] := split_of_not_mem uncut
  have back : String.ofList name.toList = name := String.ofList_toList
  rcases List.eq_nil_or_concat p.text.toList with empty | ⟨front, c, ends⟩
  · refine ⟨[], [""], ?_, by decide, ?_⟩
    · rw [segments, empty]
      rfl
    · have text : (p.child name).text.toList = name.toList := by
        simp [child, join, relative, empty]
      rw [segments, text, single]
      simp
  · rw [List.concat_eq_append] at ends
    by_cases slash : c = '/'
    · subst slash
      refine ⟨(split '/' front).map String.ofList, [""], ?_, by decide, ?_⟩
      · rw [segments, ends, split_append_sep, List.map_append]
        rfl
      · have text : (p.child name).text.toList = front ++ '/' :: name.toList := by
          simp [child, join, relative, ends]
        rw [segments, text, split_append_sep, List.map_append, single]
        simp
    · refine ⟨p.segments, [], (List.append_nil _).symm, nofun, ?_⟩
      have text : (p.child name).text.toList = p.text.toList ++ '/' :: name.toList := by
        simp [child, join, relative, ends, slash]
      rw [segments, text, split_append_sep, List.map_append, single, ← segments]
      simp

theorem key_child (h : IsName name) : (p.child name).key base = p.key base ++ [name] := by
  obtain ⟨front, idle, parent, idles, child⟩ := exists_segments_child p h.uncut
  rw [Path.key, start_child h.uncut, child, Path.key, parent, List.foldl_append,
    List.foldl_append, foldl_step_of_idle idles]
  exact h.step _

theorem way_child (h : IsName name) :
    (p.child name).way base = p.way base ++ [p.key base ++ [name]] := by
  obtain ⟨front, idle, parent, idles, child⟩ := exists_segments_child p h.uncut
  rw [way, start_child h.uncut, child, way, Path.key, parent, List.foldl_append, along_append,
    along_append, along_of_idle idles, foldl_step_of_idle idles, List.append_nil, h.along]

/-- A way that starts outside of a directory and never names it does not lead into it. -/
theorem not_prefix_of_mem_along (last : k.getLast? = some name) (unnamed : name ∉ segments)
    (outside : ¬ k <+: key) : ∀ x ∈ along key segments, ¬ k <+: x := by
  induction segments generalizing key with
  | nil => nofun
  | cons s segments ih =>
    have unnamed' : name ∉ segments := fun mem => unnamed (List.mem_cons_of_mem s mem)
    rw [along]
    split
    · exact ih unnamed' outside
    split
    · exact ih unnamed' fun inside => outside (inside.trans (List.dropLast_prefix key))
    · have stays : ¬ k <+: key ++ [s] := by
        intro inside
        rcases List.prefix_concat_iff.mp inside with rfl | inside
        · rw [List.getLast?_concat] at last
          exact unnamed (Option.some.inj last ▸ List.mem_cons_self)
        · exact outside inside
      intro x hx
      rcases List.mem_cons.mp hx with rfl | hx
      · exact stays
      · exact ih unnamed' stays x hx

end Path

namespace Tree
open LintRepair.Path

variable {t u : Tree} {base key q : List String} {segments : List String} {place : Target}
variable {p : Path} {text : String}

theorem key_of_follow (h : t.follow key segments = .ok place) :
    place.key = segments.foldl step key := by
  induction segments generalizing key with
  | nil =>
    obtain rfl := Except.ok.inj h
    rfl
  | cons s more ih =>
    rw [List.foldl_cons, step]
    unfold follow at h
    split at h
    · rename_i idle
      rw [if_pos idle]
      exact ih h
    rename_i named
    rw [if_neg named]
    split at h
    · rename_i up
      rw [if_pos up]
      exact ih h
    rename_i below
    rw [if_neg below]
    split at h
    · cases h
    have ended {ms : List String} {asDirectory : Bool} (idle : ms.all isIdle = true)
        (h : (.ok ⟨key ++ [s], asDirectory⟩ : Except FileError Target) = .ok place) :
        place.key = ms.foldl step (key ++ [s]) := by
      rw [← Except.ok.inj h, foldl_step_of_idle (List.all_eq_true.mp idle)]
    cases more with
    | nil => exact ended rfl h
    | cons m more =>
      simp only at h
      split at h
      · exact ih h
      · split at h
        · exact ended ‹_› h
        · cases h
      · split at h
        · exact ended ‹_› h
        · cases h

theorem get?_makeAlong (h : t.makeAlong key segments = (.ok (), u)) (q : List String) :
    u.get? q = if q ∈ along key segments then some .directory else t.get? q := by
  induction segments generalizing t key with
  | nil =>
    obtain rfl : t = u := (Prod.mk.inj h).2
    simp [along]
  | cons s more ih =>
    unfold makeAlong at h
    rw [along]
    split at h
    · rename_i idle
      rw [if_pos idle]
      exact ih h
    rename_i named
    rw [if_neg named]
    split at h
    · rename_i up
      rw [if_pos up]
      exact ih h
    rename_i below
    rw [if_neg below]
    split at h
    · cases h
    simp only [List.mem_cons]
    split at h
    · rename_i there
      rw [ih h]
      by_cases here : q = key ++ [s]
      · simp [here, there]
      · simp [here]
    · cases h
    · rw [ih h, get?_set t (by simp)]
      by_cases here : q = key ++ [s]
      · simp [here]
      · simp [here]

theorem makeBelow_eq_ok (h : t.makeBelow key segments = (.ok (), u)) :
    t.makeAlong key segments = (.ok (), u) := by
  unfold makeBelow at h
  split at h
  · exact h
  · cases h

theorem get?_makeDirectories (h : t.makeDirectories base p = (.ok (), u)) (q : List String) :
    u.get? q = if q ∈ p.way base then some .directory else t.get? q := by
  unfold makeDirectories at h
  split at h
  · cases h
  split at h
  · rename_i nameless
    have none : p.way base = [] :=
      along_of_idle (by simp [Path.segments, nameless, Text.split, isIdle])
    obtain rfl : t = u := (Prod.mk.inj h).2
    simp [none]
  · exact get?_makeAlong (makeBelow_eq_ok h) q

theorem get?_putAt {bytes : List UInt8} (h : t.putAt place bytes = .ok u) (q : List String) :
    u.get? q = if q = place.key then some (.file bytes) else t.get? q := by
  have ne : ∀ n, t.get? place.key = n → n ≠ some .directory → place.key ≠ [] := by
    rintro n at_key other root
    rw [root] at at_key
    exact other at_key.symm
  unfold putAt at h
  split at h
  · cases h
  · rename_i at_key
    split at h
    · cases h
    · obtain rfl := Except.ok.inj h
      rw [get?_set t (ne _ at_key (by simp))]
  · rename_i at_key
    split at h
    · cases h
    · obtain rfl := Except.ok.inj h
      rw [get?_set t (ne _ at_key (by simp))]

/-- A path is looked up segment by segment from a directory. -/
theorem target_eq_ok (h : t.target base p = .ok place) :
    t.get? (p.start base) = some .directory ∧ t.follow (p.start base) p.segments = .ok place := by
  unfold target at h
  split at h
  · cases h
  split at h
  · cases h
  · rename_i found
    simp only [ne_eq, Bool.or_eq_true, decide_eq_true_eq, not_or, not_not] at found
    exact ⟨found.2, h⟩

theorem follow_of_target (h : t.target base p = .ok place) :
    t.follow (p.start base) p.segments = .ok place := (target_eq_ok h).2

/-- Where an absolute path leads does not depend on the base. -/
theorem target_of_isAbsolute (h : p.isAbsolute = true) (base : List String) :
    t.target base p = t.target [] p := by
  simp only [target, start, h, if_true]

theorem key_of_target (h : t.target base p = .ok place) : place.key = p.key base :=
  key_of_follow (follow_of_target h)

theorem get?_writeBytes {bytes : List UInt8} (h : t.writeBytes base p bytes = .ok u)
    (q : List String) :
    u.get? q = if q = p.key base then some (.file bytes) else t.get? q := by
  unfold writeBytes at h
  rcases led : t.target base p with e | place
  · rw [led] at h
    cases h
  rw [led] at h
  rw [← key_of_target led]
  exact get?_putAt h q

theorem get?_writeText (h : t.writeText base p text = .ok u) (q : List String) :
    u.get? q = if q = p.key base then some (.file (utf8 text)) else t.get? q :=
  get?_writeBytes h q

end Tree
end LintRepair
