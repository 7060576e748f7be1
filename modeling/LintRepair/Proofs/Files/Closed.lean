import LintRepair.Proofs.Files.Replace

/-!
Trees in which everything stands in a directory, as it does on a disk. Every operation on files
leaves such a tree, whether it succeeds or fails, and so does every step of a replacement that the
disk refuses.
-/
namespace LintRepair.Tree
open LintRepair.Path

variable {t u : Tree} {base key q : List String} {segments : List String} {p old new : Path}
variable {place source goal : Target} {n : Node} {bytes : List UInt8} {s : String}

/-- Whatever is in the tree stands in a directory, as it does on a disk. -/
def Closed (t : Tree) : Prop :=
  ∀ key name, t.get? (key ++ [name]) ≠ none → t.get? key = some .directory

theorem Closed.of_entries (h : ∀ e ∈ t.entries, t.get? e.1.dropLast = some .directory) :
    t.Closed := by
  intro key name there
  obtain ⟨n, found⟩ := Option.ne_none_iff_exists'.mp there
  have mem : (key ++ [name], n) ∈ t.entries := by
    have found : t.entries.lookup (key ++ [name]) = some n := by
      cases key <;> exact found
    obtain ⟨before, behind, split, -⟩ := List.lookup_eq_some_iff.mp found
    simp [split]
  simpa using h _ mem

theorem Closed.directory (closed : t.Closed) {more : List String}
    (there : t.get? (key ++ more) ≠ none) (filled : more ≠ []) : t.get? key = some .directory := by
  induction more using List.reverseRecOn with
  | nil => exact absurd rfl filled
  | append_singleton more name ih =>
    rw [← List.append_assoc] at there
    have inner := closed _ _ there
    by_cases last : more = []
    · simpa [last] using inner
    · exact ih (by simp [inner]) last

theorem Closed.dropLast (closed : t.Closed) (there : t.get? key ≠ none) :
    t.get? key.dropLast = some .directory := by
  rcases List.eq_nil_or_concat key with rfl | ⟨front, name, rfl⟩
  · rfl
  · rw [List.concat_eq_append] at there ⊢
    rw [List.dropLast_concat]
    exact closed _ _ there

theorem Closed.bare (closed : t.Closed) (other : t.get? key ≠ some .directory) (name : String) :
    t.get? (key ++ [name]) = none := by
  by_contra there
  exact other (closed _ _ there)

theorem Closed.set (closed : t.Closed) (ne : key ≠ [])
    (parent : t.get? key.dropLast = some .directory)
    (stays : t.get? key = some .directory → n = .directory) : (t.set key n).Closed := by
  intro k name there
  rw [get?_set t ne] at there ⊢
  by_cases here : k = key
  · subst here
    rw [if_neg (by simp)] at there
    rw [if_pos rfl, stays (closed _ _ there)]
  · rw [if_neg here]
    split at there
    · rename_i child
      rw [← child, List.dropLast_concat] at parent
      exact parent
    · exact closed _ _ there

theorem Closed.erase (closed : t.Closed) (ne : key ≠ [])
    (bare : ∀ name, t.get? (key ++ [name]) = none) : (t.erase key).Closed := by
  intro k name there
  rw [get?_erase t ne] at there ⊢
  split at there
  · cases there rfl
  · have parent := closed _ _ there
    rw [if_neg, parent]
    rintro rfl
    exact there (bare name)

/-- What a path leads to stands in a directory, even if it is yet to be made. -/
theorem follow_parent (closed : t.Closed) (there : t.get? key = some .directory)
    (h : t.follow key segments = .ok place) : t.get? place.key.dropLast = some .directory := by
  induction segments generalizing key with
  | nil =>
    obtain rfl := Except.ok.inj h
    exact closed.dropLast (by simp [there])
  | cons s more ih =>
    unfold follow at h
    split at h
    · exact ih there h
    split at h
    · exact ih (closed.dropLast (by simp [there])) h
    split at h
    · cases h
    have last {asDirectory : Bool}
        (h : (.ok ⟨key ++ [s], asDirectory⟩ : Except FileError Target) = .ok place) :
        t.get? place.key.dropLast = some .directory := by
      rw [← Except.ok.inj h, List.dropLast_concat, there]
    cases more with
    | nil => exact last h
    | cons m more =>
      simp only at h
      split at h
      · rename_i directory
        exact ih directory h
      · split at h
        · exact last h
        · cases h
      · split at h
        · exact last h
        · cases h

theorem target_parent (closed : t.Closed) (h : t.target base p = .ok place) :
    t.get? place.key.dropLast = some .directory :=
  have ⟨there, led⟩ := target_eq_ok h
  follow_parent closed there led

theorem Closed.putAt (closed : t.Closed) (parent : t.get? place.key.dropLast = some .directory)
    (h : t.putAt place bytes = .ok u) : u.Closed := by
  have ne (other : t.get? place.key ≠ some .directory) : place.key ≠ [] := by
    intro root
    rw [root] at other
    exact other rfl
  unfold Tree.putAt at h
  split at h
  · cases h
  · rename_i found
    split at h
    · cases h
    · obtain rfl := Except.ok.inj h
      exact closed.set (ne (by simp [found])) parent (by simp [found])
  · rename_i found
    split at h
    · cases h
    · obtain rfl := Except.ok.inj h
      exact closed.set (ne (by simp [found])) parent (by simp [found])

theorem Closed.writeBytes (closed : t.Closed) (h : t.writeBytes base p bytes = .ok u) :
    u.Closed := by
  unfold Tree.writeBytes at h
  rcases led : t.target base p with e | place
  · rw [led] at h
    cases h
  · rw [led] at h
    exact closed.putAt (target_parent closed led) h

theorem Closed.makeAlong (closed : t.Closed) (there : t.get? key = some .directory) :
    (t.makeAlong key segments).2.Closed := by
  induction segments generalizing t key with
  | nil => exact closed
  | cons s more ih =>
    unfold Tree.makeAlong
    split
    · exact ih closed there
    split
    · exact ih closed (closed.dropLast (by simp [there]))
    split
    · exact closed
    split
    · rename_i directory
      exact ih closed directory
    · exact closed
    · rename_i absent
      refine ih (closed.set (by simp) (by simp [there]) (by simp [absent])) ?_
      rw [get?_set t (by simp), if_pos rfl]

theorem Closed.makeBelow (closed : t.Closed) : (t.makeBelow key segments).2.Closed := by
  unfold Tree.makeBelow
  split
  · rename_i there
    exact closed.makeAlong there
  · exact closed

theorem Closed.makeDirectories (closed : t.Closed) (base : List String) (p : Path) :
    (t.makeDirectories base p).2.Closed := by
  unfold Tree.makeDirectories
  split
  · exact closed
  split
  · exact closed
  · exact closed.makeBelow

theorem Closed.rename (closed : t.Closed) (h : t.rename base old new = .ok u) : u.Closed := by
  obtain ⟨source, goal, -, to_new, moved⟩ := rename_eq_ok h
  obtain ⟨-, other, bytes, file, after⟩ := get?_moveTo moved
  have parent := target_parent closed to_new
  have kept {k : List String} (directory : t.get? k = some .directory) :
      u.get? k = some .directory := by
    rw [after, if_neg, if_neg, directory]
    · rintro rfl
      rw [file] at directory
      cases directory
    · rintro rfl
      exact other directory
  intro k name there
  rw [after] at there
  split at there
  · rename_i child
    rw [← child, List.dropLast_concat] at parent
    exact kept parent
  split at there
  · cases there rfl
  · exact kept (closed _ _ there)

theorem Closed.tryDirectories (closed : t.Closed) (base : List String) (p : Path)
    (r : Option DiskRefusal) : (t.tryDirectories base p r).2.Closed := by
  unfold Tree.tryDirectories
  split
  · exact closed.makeDirectories base p
  · exact closed
  · exact closed.makeBelow

theorem Closed.tryWrite (closed : t.Closed) (base : List String) (p : Path) (bytes : List UInt8)
    (r : Option DiskRefusal) : (t.tryWrite base p bytes r).2.Closed := by
  unfold Tree.tryWrite
  split
  · split
    · rename_i written
      exact closed.writeBytes written
    · exact closed
  · exact closed
  · split
    · rename_i written
      exact closed.writeBytes written
    · exact closed

theorem Closed.tryRename (closed : t.Closed) (base : List String) (old new : Path)
    (r : Option FileError) : (t.tryRename base old new r).2.Closed := by
  unfold Tree.tryRename
  split
  · split
    · rename_i renamed
      exact closed.rename renamed
    · exact closed
  · exact closed

theorem Closed.replace (closed : t.Closed) (base : List String) (p : Path) (s : String)
    (trouble : Trouble) : (t.replace base p s trouble).2.Closed := by
  unfold Tree.replace
  split
  · exact closed
  rename_i parent has_parent
  have made := closed.tryDirectories base parent trouble.directories
  split
  · rename_i stopped
    rwa [stopped] at made
  rename_i t₁ done
  rw [done] at made
  split
  · exact made
  rename_i name has_name
  have written := made.tryWrite base (temporaryIn parent name) (utf8 s) trouble.temporary
  split
  · rename_i stopped
    rwa [stopped] at written
  rename_i t₂ done
  rw [done] at written
  have renamed := written.tryRename base (temporaryIn parent name) p trouble.rename
  split
  · rename_i stopped
    rwa [stopped] at renamed
  · rename_i done
    rwa [done] at renamed

end LintRepair.Tree
