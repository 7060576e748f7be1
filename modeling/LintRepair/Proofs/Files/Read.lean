import LintRepair.Proofs.Files.Replace

/-!
What is read at a path when other things in the tree change. A path leads to what it led to before
as long as no directory goes away and what it leads to stays.
-/
namespace LintRepair.Tree
open LintRepair.Path

variable {t u : Tree} {base q : List String} {p other : Path} {n : Node} {text s : String}
variable {bytes : List UInt8}

theorem stat_of_same (kept : ∀ q, t.get? q = some .directory → u.get? q = some .directory)
    (same : u.get? (p.key base) = t.get? (p.key base)) (h : t.stat base p = .ok n) :
    u.stat base p = .ok n := by
  unfold stat at h ⊢
  rcases led : t.target base p with e | place
  · rw [led] at h
    cases h
  have key := key_of_target led
  rw [← key] at same
  have leads : u.target base p = .ok place := target_of_directories kept led fun _ => same
  rw [led] at h
  rw [leads]
  simp only [Except.bind, at?, same] at h ⊢
  exact h

theorem readText_of_stat (h : t.readText base p = .ok text) :
    ∃ bytes, t.stat base p = .ok (.file bytes) ∧ strictText? bytes = some text := by
  unfold readText readBytes at h
  rcases found : t.stat base p with e | n
  · rw [found] at h
    cases h
  rw [found] at h
  cases n with
  | directory => cases h
  | file bytes =>
    refine ⟨bytes, rfl, ?_⟩
    rcases read : strictText? bytes with _ | other
    · simp only [read] at h
      cases h
    · simp only [read] at h
      exact congrArg some (Except.ok.inj h)

theorem readText_of_file (found : t.stat base p = .ok (.file bytes))
    (read : strictText? bytes = some text) : t.readText base p = .ok text := by
  unfold readText readBytes
  simp only [found, read]

theorem readText_of_same (kept : ∀ q, t.get? q = some .directory → u.get? q = some .directory)
    (same : u.get? (p.key base) = t.get? (p.key base)) (h : t.readText base p = .ok text) :
    u.readText base p = .ok text := by
  obtain ⟨bytes, found, read⟩ := readText_of_stat h
  exact readText_of_file (stat_of_same kept same found) read

/-- A file is written only where a path leads to a file or to nothing. -/
theorem writeBytes_eq_ok (h : t.writeBytes base p bytes = .ok u) :
    ∃ place, t.target base p = .ok place ∧ place.asDirectory = false ∧
      t.get? place.key ≠ some .directory := by
  unfold writeBytes at h
  rcases led : t.target base p with e | place
  · rw [led] at h
    cases h
  rw [led] at h
  refine ⟨place, rfl, ?_⟩
  simp only [Except.bind] at h
  unfold putAt at h
  split at h
  · cases h
  · rename_i found
    split at h
    · cases h
    · rename_i plain
      exact ⟨Bool.eq_false_iff.mpr plain, by simp [found]⟩
  · rename_i absent
    split at h
    · cases h
    · rename_i plain
      exact ⟨Bool.eq_false_iff.mpr plain, by simp [absent]⟩

theorem directory_of_writeBytes (h : t.writeBytes base p bytes = .ok u)
    (directory : t.get? q = some .directory) : u.get? q = some .directory := by
  obtain ⟨place, led, -, not_directory⟩ := writeBytes_eq_ok h
  rw [get?_writeBytes h, if_neg, directory]
  rintro rfl
  rw [key_of_target led] at not_directory
  exact not_directory directory

theorem readText_of_writeText (h : t.writeText base p s = .ok u) : u.readText base p = .ok s := by
  obtain ⟨place, led, plain, -⟩ := writeBytes_eq_ok h
  have leads : u.target base p = .ok place :=
    target_of_directories (fun q => directory_of_writeBytes h) led (by simp [plain])
  have found : u.stat base p = .ok (.file (utf8 s)) := by
    rw [stat, leads]
    simp only [Except.bind, at?, get?_writeText h, key_of_target led, if_pos, plain,
      Bool.false_eq_true, if_false]
  exact readText_of_file found (strictText?_utf8 s)

theorem readText_of_writeText_of_ne (h : t.writeText base other s = .ok u)
    (apart : p.key base ≠ other.key base) (read : t.readText base p = .ok text) :
    u.readText base p = .ok text := by
  refine readText_of_same (fun q => directory_of_writeBytes h) ?_ read
  rw [get?_writeText h, if_neg apart]

end LintRepair.Tree
