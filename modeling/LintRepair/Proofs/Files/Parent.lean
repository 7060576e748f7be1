import LintRepair.Proofs.Files.Replace
import LintRepair.Proofs.Text.Lines
import Mathlib.Data.List.DropRight

/-!
What a path leads to, told by the names in it. Joining puts the names behind one another, the parent
lacks the last of them, and the temporary file has it with `.tmp` behind. Dots and doubled slashes
make no difference to any of this, nor does a slash at the end.
-/
namespace LintRepair

namespace Path
open Text

variable {p q root : Path} {name : String} {names segments front more : List String}
variable {base : List String}

theorem uncut_of_mem_segments {s : String} (mem : s ∈ p.segments) : '/' ∉ s.toList := by
  obtain ⟨piece, piece_mem, rfl⟩ := List.mem_map.mp mem
  rw [String.toList_ofList]
  exact not_mem_of_mem_split piece_mem

/-- A path starts at the root if nothing is before its first slash. -/
theorem isAbsolute_iff : p.isAbsolute = true ↔ ∃ more, more ≠ [] ∧ p.segments = "" :: more := by
  rw [isAbsolute, decide_eq_true_eq, Path.segments]
  cases p.text.toList with
  | nil => simp [split]
  | cons c cs =>
    by_cases slash : c = '/'
    · subst slash
      rw [split_sep]
      simp [split_ne_nil]
    · obtain ⟨l, ls, rest⟩ := List.exists_cons_of_ne_nil (split_ne_nil '/' cs)
      simp [split, slash, rest]

theorem names_join (relative : q.isAbsolute = false) : (p.join q).names = p.names ++ q.names := by
  unfold join
  rw [if_neg (by simp [relative])]
  rcases List.eq_nil_or_concat p.text.toList with empty | ⟨front, c, ends⟩
  · simp [names, Path.segments, empty, split, isIdle]
  rw [List.concat_eq_append] at ends
  by_cases slash : c = '/'
  · subst slash
    simp [names, Path.segments, ends, split_append_sep, split, isIdle]
  · have joined : (p.text ++ "/" ++ q.text).toList = p.text.toList ++ '/' :: q.text.toList := by
      simp
    rw [if_pos (by simp [ends, slash]), names, Path.segments, joined, split_append_sep]
    simp [names, Path.segments]

theorem toList_ofSegments (other : segments ≠ [""]) :
    (ofSegments segments).text.toList = Text.join '/' (segments.map String.toList) := by
  unfold ofSegments
  split
  · exact absurd rfl other
  · rw [String.toList_intercalate, join_eq_intercalate]
    rfl

/-- Segments written as a path are read back, but for the root, which reads as two empty ones. -/
theorem segments_ofSegments (uncut : ∀ s ∈ segments, '/' ∉ s.toList) (filled : segments ≠ [])
    (other : segments ≠ [""]) : (ofSegments segments).segments = segments := by
  have pieces : split '/' (Text.join '/' (segments.map String.toList)) =
      segments.map String.toList :=
    split_join (List.forall_mem_map.mpr uncut) (by simp [filled])
  rw [Path.segments, toList_ofSegments other, pieces, List.map_map]
  simp

theorem names_ofSegments (uncut : ∀ s ∈ segments, '/' ∉ s.toList) (filled : segments ≠ []) :
    (ofSegments segments).names = segments.filter (!isIdle ·) := by
  by_cases other : segments = [""]
  · subst other
    rfl
  · rw [Path.names, segments_ofSegments uncut filled other]

theorem isAbsolute_ofSegments {first : String} (uncut : ∀ s ∈ first :: more, '/' ∉ s.toList) :
    (ofSegments (first :: more)).isAbsolute = decide (first = "") := by
  by_cases other : first :: more = [""]
  · obtain ⟨rfl, rfl⟩ := List.cons.inj other
    rfl
  · rw [Bool.eq_iff_iff, isAbsolute_iff, decide_eq_true_eq,
      segments_ofSegments uncut (List.cons_ne_nil _ _) other]
    constructor
    · rintro ⟨_, -, same⟩
      exact (List.cons.inj same).1
    · rintro rfl
      exact ⟨more, fun none => other (by rw [none]), rfl⟩

/-- Idle segments behind a name are dropped, and no others. -/
theorem dropIdleEnd_append (named : isIdle name = false) (idle : ∀ s ∈ more, isIdle s = true) :
    dropIdleEnd (front ++ name :: more) = front ++ [name] := by
  have trailing (front : List String) :
      List.rdropWhile isIdle (front ++ name :: more) = front ++ [name] := by
    rw [List.rdropWhile, List.reverse_append, List.reverse_cons, List.append_assoc,
      List.dropWhile_append_of_pos (by simpa using idle)]
    simp [named]
  cases front with
  | nil =>
    have none : List.rdropWhile isIdle more = [] := List.rdropWhile_eq_nil_iff.mpr idle
    exact congrArg (name :: ·) none
  | cons f front => exact congrArg (f :: ·) (trailing front)

theorem dropIdleEnd_sublist (segments : List String) :
    (dropIdleEnd segments).Sublist segments := by
  cases segments with
  | nil => exact List.Sublist.refl _
  | cons first others => exact ((List.rdropWhile_prefix isIdle others).sublist).cons_cons first

theorem filter_dropIdleEnd (segments : List String) :
    (dropIdleEnd segments).filter (!isIdle ·) = segments.filter (!isIdle ·) := by
  cases segments with
  | nil => rfl
  | cons first others =>
    have same : (List.rdropWhile isIdle others).filter (!isIdle ·) = others.filter (!isIdle ·) := by
      induction others using List.reverseRecOn with
      | nil => rfl
      | append_singleton others s ih =>
        by_cases idle : isIdle s = true
        · rw [List.rdropWhile_concat_pos _ _ _ idle, ih]
          simp [idle]
        · rw [List.rdropWhile_concat_neg _ _ _ idle]
    show (first :: List.rdropWhile isIdle others).filter _ = _
    rw [List.filter_cons, List.filter_cons, same]

/-- The segment that a path names last, with idle ones behind it. -/
theorem exists_segments_of_names (h : p.names = names ++ [name]) :
    ∃ front more, p.segments = front ++ name :: more ∧ front.filter (!isIdle ·) = names ∧
      isIdle name = false ∧ ∀ s ∈ more, isIdle s = true := by
  obtain ⟨front, rest, whole, front_names, last⟩ := List.filter_eq_append_iff.mp h
  obtain ⟨skipped, more, rfl, skipped_idle, named, none⟩ := List.filter_eq_cons_iff.mp last
  refine ⟨front ++ skipped, more, by rw [whole, List.append_assoc], ?_, by simpa using named, ?_⟩
  · rw [List.filter_append, front_names, List.filter_eq_nil_iff.mpr skipped_idle, List.append_nil]
  · simpa using List.filter_eq_nil_iff.mp none

theorem fileName?_of_names (h : p.names = names ++ [name]) (below : name ≠ "..") :
    p.fileName? = some name := by
  obtain ⟨front, more, whole, -, named, idle⟩ := exists_segments_of_names h
  rw [fileName?, whole, dropIdleEnd_append named idle, List.getLast?_concat]
  simp [named, below]

/-- The parent of a path names all but the last, from the same start. -/
theorem exists_parent_of_names (h : p.names = names ++ [name]) :
    ∃ parent, p.parent? = some parent ∧ parent.names = names ∧
      parent.isAbsolute = p.isAbsolute := by
  obtain ⟨front, more, whole, rfl, named, idle⟩ := exists_segments_of_names h
  have uncut : ∀ s ∈ front, '/' ∉ s.toList := fun s mem =>
    uncut_of_mem_segments (p := p) (whole ▸ List.mem_append_left _ mem)
  have filled : name ≠ "" := by
    rintro rfl
    cases named
  unfold parent?
  rw [whole, dropIdleEnd_append named idle]
  cases front with
  | nil =>
    refine ⟨⟨""⟩, by simp [filled], rfl, ?_⟩
    rw [Bool.eq_iff_iff, isAbsolute_iff, isAbsolute_iff, whole]
    simp [filled, Path.segments, split]
  | cons first front =>
    have kept := (dropIdleEnd_sublist (first :: front)).subset
    refine ⟨ofSegments (dropIdleEnd (first :: front)), ?_, ?_, ?_⟩
    · cases front with
      | nil => rfl
      | cons second front =>
        show some (ofSegments (dropIdleEnd ((first :: second :: front) ++ [name]).dropLast)) = _
        rw [List.dropLast_concat]
    · rw [names_ofSegments (fun s mem => uncut s (kept mem)) (by simp [dropIdleEnd]),
        filter_dropIdleEnd]
    · rw [dropIdleEnd, isAbsolute_ofSegments fun s mem => uncut s (kept mem), Bool.eq_iff_iff,
        decide_eq_true_eq, isAbsolute_iff, whole]
      simp

theorem temporaryName_ne (name : String) {s : String} (short : s.length < 4) :
    name ++ ".tmp" ≠ s := by
  rintro rfl
  have four : ".tmp".length = 4 := rfl
  rw [String.length_append] at short
  omega

/-- The temporary file stands beside the file that a path names last. -/
theorem exists_temporary_of_names (h : p.names = names ++ [name]) (below : name ≠ "..") :
    ∃ temporary, p.temporary? = some temporary ∧ temporary.names = names ++ [name ++ ".tmp"] ∧
      temporary.isAbsolute = p.isAbsolute := by
  obtain ⟨parent, has_parent, parent_names, parent_start⟩ := exists_parent_of_names h
  obtain ⟨front, more, whole, -, -, -⟩ := exists_segments_of_names h
  have uncut : '/' ∉ (name ++ ".tmp").toList := by
    have uncut : '/' ∉ name.toList := uncut_of_mem_segments (p := p) (whole ▸ by simp)
    simp [uncut]
  have named : isIdle (name ++ ".tmp") = false := by
    rw [isIdle, decide_eq_false (temporaryName_ne name (by decide)),
      decide_eq_false (temporaryName_ne name (by decide))]
    rfl
  have single : Path.names ⟨name ++ ".tmp"⟩ = [name ++ ".tmp"] := by
    rw [Path.names, Path.segments, split_of_not_mem uncut]
    simp [named]
  have relative := isAbsolute_of_uncut uncut
  refine ⟨Tree.temporaryIn parent name, ?_, ?_, ?_⟩
  · rw [temporary?, has_parent, fileName?_of_names h below]
    rfl
  · rw [Tree.temporaryIn, child, names_join relative, parent_names, single]
  · rw [Tree.temporaryIn, child, isAbsolute_join relative, parent_start]

/-- The path leads strictly below a directory: it names what the directory's path names and then
more, and never goes up again. -/
structure Below (root p : Path) : Prop where
  start : p.isAbsolute = root.isAbsolute
  names : ∃ more, more ≠ [] ∧ ".." ∉ more ∧ p.names = root.names ++ more

theorem foldl_step_filter (key segments : List String) :
    (segments.filter (!isIdle ·)).foldl step key = segments.foldl step key := by
  induction segments generalizing key with
  | nil => rfl
  | cons s segments ih =>
    rw [List.foldl_cons, ← ih, List.filter_cons]
    by_cases idle : isIdle s = true
    · simp [step, idle]
    · simp [idle]

theorem key_eq_foldl_names (base : List String) (p : Path) :
    p.key base = p.names.foldl step (p.start base) :=
  (foldl_step_filter _ _).symm

theorem start_congr (same : p.isAbsolute = q.isAbsolute) (base : List String) :
    p.start base = q.start base := by
  rw [start, start, same]

theorem foldl_step_of_names (named : ∀ s ∈ more, isIdle s = false) (forward : ".." ∉ more)
    (key : List String) : more.foldl step key = key ++ more := by
  induction more generalizing key with
  | nil => simp
  | cons s more ih =>
    have here : s ≠ ".." := fun up => forward (up ▸ List.mem_cons_self)
    have first : step key s = key ++ [s] := by
      rw [step, if_neg (by simp [named s List.mem_cons_self]), if_neg here]
    rw [List.foldl_cons, first,
      ih (fun x mem => named x (List.mem_cons_of_mem s mem))
        (fun mem => forward (List.mem_cons_of_mem s mem)), List.append_assoc,
      List.singleton_append]

theorem not_isIdle_of_mem_names {s : String} (mem : s ∈ p.names) : isIdle s = false := by
  simpa using (List.mem_filter.mp mem).2

theorem key_of_forward (forward : ".." ∉ p.names) (base : List String) :
    p.key base = p.start base ++ p.names := by
  rw [key_eq_foldl_names]
  exact foldl_step_of_names (fun _ => not_isIdle_of_mem_names) forward _

/-- From wherever both are looked up, such a path leads strictly below where the directory's
does. -/
theorem Below.exists_key (below : Below root p) (base : List String) :
    ∃ more, more ≠ [] ∧ p.key base = root.key base ++ more := by
  obtain ⟨more, filled, inner, whole⟩ := below.names
  refine ⟨more, filled, ?_⟩
  have named : ∀ s ∈ more, isIdle s = false := fun s mem =>
    not_isIdle_of_mem_names (whole ▸ List.mem_append_right _ mem)
  rw [key_eq_foldl_names, whole, List.foldl_append, start_congr below.start,
    ← key_eq_foldl_names]
  exact foldl_step_of_names named inner _

/-- A path that leads strictly below a directory has its temporary file there too. -/
theorem Below.temporary (below : Below root p) :
    ∃ temporary, p.temporary? = some temporary ∧ Below root temporary := by
  obtain ⟨more, filled, inner, whole⟩ := below.names
  obtain ⟨front, name, rfl⟩ := (List.eq_nil_or_concat more).resolve_left filled
  rw [List.concat_eq_append] at inner whole
  have last : name ≠ ".." := fun up => inner (by simp [up])
  rw [← List.append_assoc] at whole
  obtain ⟨temporary, has_temporary, names, start⟩ := exists_temporary_of_names whole last
  refine ⟨temporary, has_temporary, start.trans below.start,
    front ++ [name ++ ".tmp"], by simp, ?_, by rw [names, List.append_assoc]⟩
  intro mem
  rcases List.mem_append.mp mem with mem | mem
  · exact inner (List.mem_append_left _ mem)
  · exact temporaryName_ne name (by decide) (List.mem_singleton.mp mem).symm

end Path
end LintRepair
