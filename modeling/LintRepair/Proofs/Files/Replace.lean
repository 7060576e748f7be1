import LintRepair.Files.Replace
import LintRepair.Proofs.Files.Tree
import LintRepair.Proofs.Text.Utf8

/-!
What a replacement does to a tree. Whatever step fails, it touches no more than the file and the
temporary one beside it, apart from making directories on the way. Once it has succeeded, the file
is read as the text that was to be written.
-/
namespace LintRepair

/-- The file that a replacement of the path writes first, if it comes that far. -/
def Path.temporary? (p : Path) : Option Path :=
  p.parent?.bind fun parent => p.fileName?.map (Tree.temporaryIn parent)

namespace Tree
open LintRepair.Path

variable {t u v : Tree} {base key q : List String} {segments : List String} {p old new : Path}
variable {place source goal : Target} {keys keys' : List (List String)} {s : String}
variable {trouble : Trouble} {answer : Except ReplaceError Unit}

/-- The second tree has all of the first, and beyond it only directories at some of the keys. -/
def Grown (keys : List (List String)) (t u : Tree) : Prop :=
  ∀ q, u.get? q = t.get? q ∨ q ∈ keys ∧ t.get? q = none ∧ u.get? q = some .directory

theorem Grown.refl (keys : List (List String)) (t : Tree) : Grown keys t t := fun _ => .inl rfl

theorem Grown.mono (grown : Grown keys t u) (more : keys ⊆ keys') : Grown keys' t u := fun q =>
  (grown q).imp_right fun ⟨mem, absent, made⟩ => ⟨more mem, absent, made⟩

theorem makeAlong_grown (t : Tree) (key segments : List String) :
    Grown (along key segments) t (t.makeAlong key segments).2 := by
  induction segments generalizing t key with
  | nil => exact .refl _ t
  | cons s more ih =>
    unfold makeAlong along
    split
    · exact ih t key
    split
    · exact ih t key.dropLast
    split
    · exact .refl _ t
    split
    · exact (ih t (key ++ [s])).mono (List.subset_cons_self _ _)
    · exact .refl _ t
    · rename_i absent
      intro q
      have made := get?_set t (by simp : key ++ [s] ≠ []) .directory q
      rcases ih (t.set (key ++ [s]) .directory) (key ++ [s]) q with same | ⟨mem, gone, dir⟩
      · by_cases here : q = key ++ [s]
        · refine .inr ⟨by simp [here], here ▸ absent, ?_⟩
          rw [same, made, if_pos here]
        · refine .inl ?_
          rw [same, made, if_neg here]
      · have elsewhere : q ≠ key ++ [s] := by
          intro here
          rw [made, if_pos here] at gone
          cases gone
        rw [made, if_neg elsewhere] at gone
        exact .inr ⟨List.mem_cons_of_mem _ mem, gone, dir⟩

theorem makeBelow_grown (t : Tree) (key segments : List String) :
    Grown (along key segments) t (t.makeBelow key segments).2 := by
  unfold makeBelow
  split
  · exact makeAlong_grown t key segments
  · exact .refl _ t

theorem along_take_subset (n : Nat) (key segments : List String) :
    along key (segments.take n) ⊆ along key segments := by
  have whole : along key (segments.take n ++ segments.drop n) = _ := along_append
  rw [List.take_append_drop] at whole
  rw [whole]
  exact List.subset_append_left _ _

theorem makeDirectories_grown {made : Except FileError Unit}
    (h : t.makeDirectories base p = (made, u)) : Grown (p.way base) t u := by
  have same : (t.makeDirectories base p).2 = u := by rw [h]
  rw [← same]
  unfold makeDirectories
  split
  · exact .refl _ t
  split
  · exact .refl _ t
  · exact makeBelow_grown t (p.start base) p.segments

theorem tryDirectories_grown (t : Tree) (base : List String) (p : Path) (r : Option DiskRefusal) :
    Grown (p.way base) t (t.tryDirectories base p r).2 := by
  unfold tryDirectories
  split
  · exact makeDirectories_grown rfl
  · exact .refl _ t
  · rename_i n
    exact (makeBelow_grown t (p.start base) _).mono (along_take_subset n _ p.segments)

theorem get?_erase (t : Tree) (ne : key ≠ []) (q : List String) :
    (t.erase key).get? q = if q = key then none else t.get? q := by
  cases q with
  | nil => rw [if_neg (Ne.symm ne)]; rfl
  | cons x q =>
    split
    · rename_i here
      refine List.lookup_eq_none_iff.mpr fun e mem => ?_
      have kept : e.1 ≠ key := of_decide_eq_true (List.mem_filter.mp mem).2
      rw [bne_iff_ne, here]
      exact kept.symm
    · rename_i elsewhere
      have put := get?_set t ne .directory (x :: q)
      rw [if_neg elsewhere] at put
      rw [← put]
      have skip : (x :: q == key) = false := by simpa using elsewhere
      simp only [get?, set, erase, List.lookup_cons, skip]

/-- A file that was moved is where it went, and no longer where it was. -/
theorem get?_moveTo (h : t.moveTo source goal = .ok u) :
    goal.asDirectory = false ∧ t.get? goal.key ≠ some .directory ∧
      ∃ bytes, t.get? source.key = some (.file bytes) ∧ ∀ q, u.get? q =
        if q = goal.key then some (.file bytes)
        else if q = source.key then none else t.get? q := by
  unfold moveTo at h
  split at h
  · cases h
  · rename_i bytes from_source not_directory
    split at h
    · cases h
    rename_i plain
    obtain rfl := Except.ok.inj h
    have not_directory : t.get? goal.key ≠ some .directory := fun directory =>
      not_directory directory
    have source_ne : source.key ≠ [] := by
      intro root
      rw [root] at from_source
      cases from_source
    have goal_ne : goal.key ≠ [] := by
      intro root
      rw [root] at not_directory
      exact not_directory rfl
    refine ⟨by simpa using plain, not_directory, bytes, from_source, fun q => ?_⟩
    rw [get?_set _ goal_ne, get?_erase t source_ne]
  · cases h

/-- A renaming that succeeds is a move from where one path leads to where the other one does. -/
theorem rename_eq_ok (h : t.rename base old new = .ok u) :
    ∃ source goal, t.target base old = .ok source ∧ t.target base new = .ok goal ∧
      t.moveTo source goal = .ok u := by
  unfold rename at h
  rcases from_old : t.target base old with e | source
  · rw [from_old] at h
    cases h
  rcases to_new : t.target base new with e | goal
  · rw [from_old, to_new] at h
    cases h
  rw [from_old, to_new] at h
  exact ⟨source, goal, rfl, rfl, h⟩

section Steps
variable {r : Option DiskRefusal} {bytes : List UInt8}

theorem makeDirectories_of_try (h : t.tryDirectories base p r = (.ok (), u)) :
    t.makeDirectories base p = (.ok (), u) := by
  unfold tryDirectories at h
  split at h
  · exact h
  · cases h
  · cases h

theorem writeBytes_of_try (h : t.tryWrite base p bytes r = (.ok (), u)) :
    t.writeBytes base p bytes = .ok u := by
  unfold tryWrite at h
  split at h
  · split at h
    · rename_i done
      rw [done, (Prod.mk.inj h).2]
    · cases h
  · cases h
  · split at h
    · cases h
    · cases h

theorem rename_of_try {r : Option FileError} (h : t.tryRename base old new r = (.ok (), u)) :
    t.rename base old new = .ok u := by
  unfold tryRename at h
  split at h
  · split at h
    · rename_i done
      rw [done, (Prod.mk.inj h).2]
    · cases h
  · cases h

theorem tryWrite_error {e : FileError} (h : t.tryWrite base p bytes r = (.error e, u)) :
    u = t ∨ ∃ front, t.writeBytes base p front = .ok u := by
  unfold tryWrite at h
  split at h
  · split at h
    · cases h
    · exact .inl (Prod.mk.inj h).2.symm
  · exact .inl (Prod.mk.inj h).2.symm
  · split at h
    · rename_i part
      rw [(Prod.mk.inj h).2] at part
      exact .inr ⟨_, part⟩
    · exact .inl (Prod.mk.inj h).2.symm

theorem tryRename_error {e : FileError} {r : Option FileError}
    (h : t.tryRename base old new r = (.error e, u)) : u = t := by
  unfold tryRename at h
  split at h
  · split at h
    · cases h
    · exact (Prod.mk.inj h).2.symm
  · exact (Prod.mk.inj h).2.symm

end Steps

/-- A replacement that comes to its end has done every step. -/
theorem replace_ok (h : t.replace base p s trouble = (.ok (), u)) :
    ∃ parent name t₁ t₂, p.parent? = some parent ∧ p.fileName? = some name ∧
      t.makeDirectories base parent = (.ok (), t₁) ∧
      t₁.writeBytes base (temporaryIn parent name) (utf8 s) = .ok t₂ ∧
      t₂.rename base (temporaryIn parent name) p = .ok u := by
  unfold replace at h
  split at h
  · cases h
  rename_i parent has_parent
  split at h
  · cases h
  rename_i t₁ made
  split at h
  · cases h
  rename_i name has_name
  split at h
  · cases h
  rename_i t₂ written
  split at h
  · cases h
  rename_i t₃ renamed
  obtain rfl : t₃ = u := (Prod.mk.inj h).2
  exact ⟨parent, name, t₁, t₂, has_parent, has_name, makeDirectories_of_try made,
    writeBytes_of_try written, rename_of_try renamed⟩

theorem temporary?_eq {parent : Path} {name : String} (has_parent : p.parent? = some parent)
    (has_name : p.fileName? = some name) : p.temporary? = some (temporaryIn parent name) := by
  rw [temporary?, has_parent, has_name]
  rfl

/-- A replacement that fails may leave directories on the way and some of the new text in the
temporary file. -/
theorem replace_error {e : ReplaceError} (h : t.replace base p s trouble = (.error e, u)) :
    u = t ∨ ∃ parent t₁, p.parent? = some parent ∧ Grown (parent.way base) t t₁ ∧
      (u = t₁ ∨ ∃ temporary bytes, p.temporary? = some temporary ∧
        t₁.writeBytes base temporary bytes = .ok u) := by
  unfold replace at h
  split at h
  · exact .inl (Prod.mk.inj h).2.symm
  rename_i parent has_parent
  have grown := tryDirectories_grown t base parent trouble.directories
  refine .inr ⟨parent, _, has_parent, grown, ?_⟩
  split at h
  · rename_i t₁ step
    rw [step]
    exact .inl (Prod.mk.inj h).2.symm
  rename_i t₁ step
  rw [step]
  split at h
  · exact .inl (Prod.mk.inj h).2.symm
  rename_i name has_name
  have has_temporary := temporary?_eq has_parent has_name
  split at h
  · rename_i t₂ failed
    obtain rfl := (Prod.mk.inj h).2
    exact (tryWrite_error failed).imp_right fun ⟨bytes, written⟩ =>
      ⟨_, bytes, has_temporary, written⟩
  rename_i t₂ done
  split at h
  · rename_i t₃ failed
    obtain rfl := (Prod.mk.inj h).2
    rw [tryRename_error failed]
    exact .inr ⟨_, _, has_temporary, writeBytes_of_try done⟩
  · cases h

/-- Segments lead to the same place in a tree that keeps all directories. What is at that place
counts only if they insist on a directory. -/
theorem follow_of_directories
    (kept : ∀ q, t.get? q = some .directory → u.get? q = some .directory)
    (h : t.follow key segments = .ok place)
    (same : place.asDirectory = true → u.get? place.key = t.get? place.key) :
    u.follow key segments = .ok place := by
  induction segments generalizing key with
  | nil => exact h
  | cons s more ih =>
    unfold follow at h ⊢
    split
    · rename_i idle
      rw [if_pos idle] at h
      exact ih h
    rename_i named
    rw [if_neg named] at h
    split
    · rename_i up
      rw [if_pos up] at h
      exact ih h
    rename_i below
    rw [if_neg below] at h
    split
    · rename_i long
      rw [if_pos long] at h
      cases h
    rename_i short
    rw [if_neg short] at h
    cases more with
    | nil => exact h
    | cons m more =>
      simp only at h ⊢
      split at h
      · rename_i directory
        rw [kept _ directory]
        exact ih h
      · rename_i file
        split at h
        · rename_i ended
          obtain rfl := Except.ok.inj h
          rw [same rfl, file]
          exact if_pos ended
        · cases h
      · rename_i absent
        split at h
        · rename_i ended
          obtain rfl := Except.ok.inj h
          rw [same rfl, absent]
          exact if_pos ended
        · cases h

/-- Whether a path can be looked up at all is a matter of its text, once there is a directory to
start from. -/
theorem target_of_follow (h : t.target base p = .ok place)
    (there : u.get? (p.start base) = some .directory)
    (leads : u.follow (p.start base) p.segments = .ok place) : u.target base p = .ok place := by
  unfold target at h ⊢
  split
  · rename_i unusable
    rw [unusable] at h
    cases h
  rename_i usable
  rw [usable] at h
  simp only at h
  split
  · rename_i lost
    rw [if_pos (by simp_all)] at h
    cases h
  · exact leads

/-- A path leads to the same place in a tree that keeps all directories. -/
theorem target_of_directories
    (kept : ∀ q, t.get? q = some .directory → u.get? q = some .directory)
    (h : t.target base p = .ok place)
    (same : place.asDirectory = true → u.get? place.key = t.get? place.key) :
    u.target base p = .ok place :=
  target_of_follow h (kept _ (target_eq_ok h).1)
    (follow_of_directories kept (follow_of_target h) same)

theorem readText_of_replace (h : t.replace base p s trouble = (.ok (), u)) :
    u.readText base p = .ok s := by
  obtain ⟨parent, name, t₁, t₂, -, -, -, written, renamed⟩ := replace_ok h
  obtain ⟨source, goal, from_temporary, to_file, moved⟩ := rename_eq_ok renamed
  obtain ⟨file, not_directory, bytes, at_source, after⟩ := get?_moveTo moved
  obtain rfl : utf8 s = bytes := by
    rw [get?_writeBytes written, if_pos (key_of_target from_temporary)] at at_source
    exact Node.file.inj (Option.some.inj at_source)
  have kept (q : List String) (directory : t₂.get? q = some .directory) :
      u.get? q = some .directory := by
    rw [after, if_neg, if_neg, directory]
    · rintro rfl
      rw [at_source] at directory
      cases directory
    · rintro rfl
      exact not_directory directory
  have leads : u.target base p = .ok goal := target_of_directories kept to_file (by simp [file])
  have bytes : u.readBytes base p = .ok (utf8 s) := by
    rw [readBytes, stat, leads]
    simp only [Except.bind, at?, after, if_pos, file, Bool.false_eq_true, if_false]
  rw [readText, bytes]
  simp only [strictText?_utf8]

theorem exists?_of_readText {text : String} (h : t.readText base p = .ok text) :
    t.exists? base p = true := by
  unfold readText readBytes at h
  unfold exists?
  generalize t.stat base p = found at h
  cases found with
  | error e => cases h
  | ok n => rfl

/-- The key is left alone, or it leads to a directory that was missing on the way to the file. -/
def KeptOrMade (base : List String) (p : Path) (t u : Tree) (q : List String) : Prop :=
  u.get? q = t.get? q ∨ (∃ parent, p.parent? = some parent ∧ q ∈ parent.way base) ∧
    t.get? q = none ∧ u.get? q = some .directory

theorem Grown.keptOrMade {parent : Path} {t₁ : Tree} (has_parent : p.parent? = some parent)
    (grown : Grown (parent.way base) t t₁) (same : u.get? q = t₁.get? q) :
    KeptOrMade base p t u q := by
  rw [KeptOrMade, same]
  exact (grown q).imp_right fun ⟨mem, rest⟩ => ⟨⟨parent, has_parent, mem⟩, rest⟩

theorem get?_of_replace_error {e : ReplaceError} (h : t.replace base p s trouble = (.error e, u))
    (lasting : ∀ temporary, p.temporary? = some temporary → q ≠ temporary.key base) :
    KeptOrMade base p t u q := by
  rcases replace_error h with rfl | ⟨parent, t₁, has_parent, grown, stopped⟩
  · exact .inl rfl
  rcases stopped with rfl | ⟨temporary, bytes, has_temporary, written⟩
  · exact grown.keptOrMade has_parent rfl
  · refine grown.keptOrMade has_parent ?_
    rw [get?_writeBytes written, if_neg (lasting _ has_temporary)]

/-- Whatever becomes of a replacement, all but the file and the temporary one stays, and no more is
made than directories on the way. -/
theorem get?_replace (h : t.replace base p s trouble = (answer, u)) (other : q ≠ p.key base)
    (lasting : ∀ temporary, p.temporary? = some temporary → q ≠ temporary.key base) :
    KeptOrMade base p t u q := by
  cases answer with
  | error e => exact get?_of_replace_error h lasting
  | ok done =>
    obtain ⟨parent, name, t₁, t₂, has_parent, has_name, made, written, renamed⟩ := replace_ok h
    have elsewhere := lasting _ (temporary?_eq has_parent has_name)
    obtain ⟨source, goal, from_temporary, to_file, moved⟩ := rename_eq_ok renamed
    obtain ⟨-, -, bytes, -, after⟩ := get?_moveTo moved
    refine (makeDirectories_grown made).keptOrMade has_parent ?_
    rw [after, key_of_target from_temporary, key_of_target to_file, if_neg other, if_neg elsewhere,
      get?_writeBytes written, if_neg elsewhere]

end Tree
end LintRepair
