import LintRepair.Proofs.Files.Closed
import LintRepair.System.Kernel

/-!
A tree in which a file or a directory has another name. What was at the old key and below it is at
the new one and below that, and nothing else is touched; what stands in a directory still does.
-/
namespace LintRepair.System.Kernel

theorem lookup_cons_of_ne {q key : List String} (other : q ≠ key) (n : Node)
    (entries : List (List String × Node)) :
    List.lookup q ((key, n) :: entries) = entries.lookup q := by
  rw [List.lookup_cons, beq_eq_false_iff_ne.mpr other]

/-- Two lists of which neither is a start of the other are not continued to the same one. -/
theorem ne_append_of_apart {x y q r : List String} (apart : ¬ x <+: y) (apart' : ¬ y <+: x)
    (inside : x <+: q) : q ≠ y ++ r := by
  rintro rfl
  rcases List.prefix_or_prefix_of_prefix inside (List.prefix_append y r) with h | h
  · exact apart h
  · exact apart' h

theorem eraseAll_cons (key : List String) (e : List String × Node)
    (entries : List (List String × Node)) :
    (Tree.eraseAll ⟨e :: entries⟩ key).entries =
      if key <+: e.1 then (Tree.eraseAll ⟨entries⟩ key).entries
      else e :: (Tree.eraseAll ⟨entries⟩ key).entries := by
  simp only [Tree.eraseAll, List.filter_cons, Bool.not_eq_true', Bool.eq_false_iff, ne_eq,
    List.isPrefixOf_iff_prefix, ite_not]

section Lookup
variable {old : List String} {new : List String} (apart : ¬ old <+: new) (apart' : ¬ new <+: old)
include apart apart'

theorem lookup_moved_append (entries : List (List String × Node)) (rest : List String) :
    (moved ⟨entries⟩ old new).entries.lookup (new ++ rest) = entries.lookup (old ++ rest) := by
  induction entries with
  | nil => rfl
  | cons e entries ih =>
    obtain ⟨key, n⟩ := e
    rw [moved, eraseAll_cons] at *
    by_cases covered : new <+: key
    · rw [if_pos covered, ih, lookup_cons_of_ne (ne_append_of_apart apart' apart covered).symm]
    rw [if_neg covered, List.map_cons]
    by_cases taken : old <+: key
    · obtain ⟨rest', rfl⟩ := taken
      rw [if_pos (by simp), List.drop_left]
      by_cases same : rest = rest'
      · rw [same, List.lookup_cons_self, List.lookup_cons_self]
      · rw [lookup_cons_of_ne (by simpa using same), lookup_cons_of_ne (by simpa using same), ih]
    · rw [if_neg (by simpa using taken), lookup_cons_of_ne, lookup_cons_of_ne, ih]
      · rintro rfl
        exact taken (List.prefix_append _ _)
      · rintro rfl
        exact covered (List.prefix_append _ _)

omit apart apart' in
theorem lookup_moved_of_not_prefix {q : List String} (elsewhere : ¬ new <+: q)
    (entries : List (List String × Node)) :
    (moved ⟨entries⟩ old new).entries.lookup q =
      if old <+: q then none else entries.lookup q := by
  induction entries with
  | nil => simp [moved, Tree.eraseAll]
  | cons e entries ih =>
    obtain ⟨key, n⟩ := e
    rw [moved, eraseAll_cons] at *
    by_cases covered : new <+: key
    · rw [if_pos covered, ih, lookup_cons_of_ne]
      rintro rfl
      exact elsewhere covered
    rw [if_neg covered, List.map_cons]
    by_cases taken : old <+: key
    · obtain ⟨rest, rfl⟩ := taken
      rw [if_pos (by simp), List.drop_left, lookup_cons_of_ne, ih]
      · split
        · rfl
        · rename_i outside
          rw [lookup_cons_of_ne]
          rintro rfl
          exact outside (List.prefix_append _ _)
      · rintro rfl
        exact elsewhere (List.prefix_append _ _)
    · rw [if_neg (by simpa using taken)]
      by_cases here : q = key
      · rw [here, List.lookup_cons_self, List.lookup_cons_self, if_neg taken]
      · rw [lookup_cons_of_ne here, lookup_cons_of_ne here, ih]

/-- What was at a key and below it is found under the other key, and no longer where it was. -/
theorem get?_moved (tree : Tree) (q : List String) :
    (moved tree old new).get? q =
      if new <+: q then tree.get? (old ++ q.drop new.length)
      else if old <+: q then none else tree.get? q := by
  have old_ne : old ≠ [] := by
    rintro rfl
    exact apart List.nil_prefix
  have new_ne : new ≠ [] := by
    rintro rfl
    exact apart' List.nil_prefix
  cases q with
  | nil =>
    rw [if_neg (by simpa using new_ne), if_neg (by simpa using old_ne)]
    rfl
  | cons x q =>
    split
    · rename_i inside
      obtain ⟨rest, whole⟩ := inside
      obtain ⟨y, ys, rfl⟩ := List.exists_cons_of_ne_nil old_ne
      rw [← whole, List.drop_left]
      have found := lookup_moved_append apart apart' tree.entries rest
      rwa [whole] at found ⊢
    · rename_i elsewhere
      exact lookup_moved_of_not_prefix elsewhere tree.entries

theorem closed_moved {tree : Tree} (closed : tree.Closed)
    (parent : tree.get? new.dropLast = some .directory) : (moved tree old new).Closed := by
  intro key name there
  rw [get?_moved apart apart'] at there ⊢
  have longer : key <+: key ++ [name] := List.prefix_append _ _
  split at there
  · rename_i inside
    rcases List.prefix_concat_iff.mp inside with rfl | inside
    · rw [List.dropLast_concat] at parent
      have before : ¬ key ++ [name] <+: key := fun h => absurd h.length_le (by simp)
      rw [if_neg before, if_neg fun h => apart (h.trans longer), parent]
    · obtain ⟨rest, rfl⟩ := inside
      rw [List.append_assoc, List.drop_left, ← List.append_assoc] at there
      rw [if_pos (List.prefix_append _ _), List.drop_left]
      exact closed _ _ there
  rename_i elsewhere
  split at there
  · cases there rfl
  · rename_i outside
    rw [if_neg fun h => elsewhere (h.trans longer), if_neg fun h => outside (h.trans longer)]
    exact closed _ _ there

end Lookup

theorem mem_namesIn {tree : Tree} {key : List String} {name : String}
    (there : tree.get? (key ++ [name]) ≠ none) :
    name ∈ tree.namesIn key := by
  obtain ⟨n, found⟩ := Option.ne_none_iff_exists'.mp there
  have mem : (key ++ [name], n) ∈ tree.entries := by
    have found : tree.entries.lookup (key ++ [name]) = some n := by
      cases key <;> exact found
    obtain ⟨before, behind, split, -⟩ := List.lookup_eq_some_iff.mp found
    simp [split]
  rw [Tree.namesIn, List.mem_mergeSort]
  exact List.mem_filterMap.mpr ⟨_, mem, by simp⟩

/-- A directory without names in it has nothing below it. -/
theorem not_prefix_of_bare {tree : Tree} {key below : List String} (closed : tree.Closed)
    (bare : ∀ name, tree.get? (key ++ [name]) = none) (there : tree.get? below ≠ none)
    (other : below ≠ key) : ¬ key <+: below := by
  rintro ⟨rest, rfl⟩
  cases rest with
  | nil => simp at other
  | cons name rest =>
    have split : key ++ name :: rest = key ++ [name] ++ rest := by simp
    rw [split] at there
    by_cases last : rest = []
    · rw [last, List.append_nil] at there
      exact there (bare name)
    · have directory := closed.directory there last
      rw [bare name] at directory
      cases directory

end LintRepair.System.Kernel
