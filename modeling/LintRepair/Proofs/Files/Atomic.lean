import LintRepair.Project.Source
import LintRepair.Proofs.Files.Closed
import LintRepair.Proofs.Files.Parent
import LintRepair.Proofs.Files.Read

/-!
Replacing a file is all or nothing for that file. Along a path that never goes up, a replacement
either leaves the new text and no temporary file, or it leaves the file as it was. On the way it
makes missing directories at most, and it touches nothing else.
-/
namespace LintRepair

namespace Path

variable {p : Path} {base key q segments : List String}

/-- Segments that never go up pass by what their first names lead to. -/
theorem mem_along_of_forward (forward : ".." ∉ segments.filter (!isIdle ·))
    (mem : q ∈ along key segments) :
    ∃ front, front ≠ [] ∧ front <+: segments.filter (!isIdle ·) ∧ q = key ++ front := by
  induction segments generalizing key with
  | nil => cases mem
  | cons s segments ih =>
    rw [along] at mem
    split at mem
    · rename_i idle
      rw [List.filter_cons_of_neg (by simp [idle])] at forward ⊢
      exact ih forward mem
    rename_i named
    rw [List.filter_cons_of_pos (by simp [named])] at forward ⊢
    rw [List.mem_cons, not_or] at forward
    rw [if_neg (Ne.symm forward.1)] at mem
    rcases List.mem_cons.mp mem with rfl | mem
    · exact ⟨[s], by simp, by simp, rfl⟩
    · obtain ⟨front, -, start, rfl⟩ := ih forward.2 mem
      exact ⟨s :: front, by simp, by simpa using start, by simp⟩

/-- The key leads to a directory that a path goes through below a base. -/
def OnTheWay (base : List String) (p : Path) (q : List String) : Prop :=
  ∃ front, front ≠ [] ∧ front <+: p.names ∧ front ≠ p.names ∧ q = p.start base ++ front

theorem exists_names_of_forward (forward : ".." ∉ p.names) (named : p.names ≠ []) :
    ∃ names name, p.names = names ++ [name] ∧ ".." ∉ names ∧ name ≠ ".." := by
  obtain ⟨names, name, whole⟩ := (List.eq_nil_or_concat p.names).resolve_left named
  rw [List.concat_eq_append] at whole
  rw [whole, List.mem_append, List.mem_singleton, not_or] at forward
  exact ⟨names, name, whole, forward.1, Ne.symm forward.2⟩

/-- The directories that are made for a file lie on the way to it. -/
theorem onTheWay_of_mem_along (forward : ".." ∉ p.names) (named : p.names ≠ []) {parent : Path}
    (has_parent : p.parent? = some parent) (mem : q ∈ parent.way base) :
    OnTheWay base p q := by
  obtain ⟨names, name, whole, inner, -⟩ := exists_names_of_forward forward named
  obtain ⟨parent', has_parent', parent_names, same⟩ := exists_parent_of_names whole
  obtain rfl : parent' = parent := Option.some.inj (has_parent'.symm.trans has_parent)
  rw [← parent_names] at inner
  rw [way, start_congr same] at mem
  obtain ⟨front, filled, start, at_front⟩ := mem_along_of_forward inner mem
  have start : front <+: names := parent_names ▸ start
  refine ⟨front, filled, whole ▸ start.trans (List.prefix_append _ _), ?_, at_front⟩
  rintro rfl
  have short := start.length_le
  rw [whole, List.length_append, List.length_singleton] at short
  omega

theorem OnTheWay.ne_key (forward : ".." ∉ p.names) (h : OnTheWay base p q) :
    q ≠ p.key base := by
  obtain ⟨front, -, -, proper, rfl⟩ := h
  rw [key_of_forward forward]
  exact fun same => proper (List.append_cancel_left same)

theorem OnTheWay.exists_key (forward : ".." ∉ p.names) (h : OnTheWay base p q) :
    ∃ more, more ≠ [] ∧ p.key base = q ++ more := by
  have elsewhere := h.ne_key forward
  obtain ⟨front, -, ⟨more, whole⟩, -, rfl⟩ := h
  rw [key_of_forward forward, ← whole, ← List.append_assoc] at elsewhere ⊢
  refine ⟨more, ?_, rfl⟩
  rintro rfl
  simp at elsewhere

end Path

namespace Tree
open LintRepair.Path

variable {t u : Tree} {base key q : List String} {p : Path} {n : Node} {s : String}
variable {trouble : Trouble} {answer : Except ReplaceError Unit} {e : ReplaceError}

theorem readText_congr (same : ∀ n, u.stat base p = .ok n ↔ t.stat base p = .ok n) (text : String) :
    u.readText base p = .ok text ↔ t.readText base p = .ok text := by
  constructor
  · intro read
    obtain ⟨bytes, found, decoded⟩ := readText_of_stat read
    exact readText_of_file ((same _).mp found) decoded
  · intro read
    obtain ⟨bytes, found, decoded⟩ := readText_of_stat read
    exact readText_of_file ((same _).mpr found) decoded

theorem get?_of_stat (h : t.stat base p = .ok n) : t.get? (p.key base) = some n := by
  unfold stat at h
  rcases led : t.target base p with e | place
  · rw [led] at h
    cases h
  rw [led] at h
  rw [← key_of_target led]
  simp only [Except.bind, at?] at h
  split at h
  · cases h
  · rename_i found
    rw [found, Except.ok.inj h]
  · rename_i found
    split at h
    · cases h
    · rw [found, Except.ok.inj h]

theorem exists?_of_absent (absent : t.get? (p.key base) = none) : t.exists? base p = false := by
  unfold exists?
  rcases found : t.stat base p with e | n
  · rfl
  · rw [get?_of_stat found] at absent
    cases absent

/-- A replacement that fails takes no directory away, and makes none but on the way. -/
theorem directory_of_replace_error (h : t.replace base p s trouble = (.error e, u)) :
    (t.get? q = some .directory → u.get? q = some .directory) ∧
      (u.get? q = some .directory → t.get? q = some .directory ∨
        ∃ parent, p.parent? = some parent ∧ q ∈ parent.way base) := by
  rcases replace_error h with rfl | ⟨parent, t₁, has_parent, grown, stopped⟩
  · exact ⟨id, .inl⟩
  have kept (directory : t.get? q = some .directory) : t₁.get? q = some .directory := by
    rcases grown q with same | ⟨-, absent, -⟩
    · rw [same, directory]
    · rw [directory] at absent
      cases absent
  have made (directory : t₁.get? q = some .directory) : t.get? q = some .directory ∨
      ∃ parent, p.parent? = some parent ∧ q ∈ parent.way base := by
    rcases grown q with same | ⟨mem, -, -⟩
    · exact .inl (same ▸ directory)
    · exact .inr ⟨parent, has_parent, mem⟩
  rcases stopped with rfl | ⟨temporary, bytes, -, written⟩
  · exact ⟨kept, made⟩
  · refine ⟨fun directory => directory_of_writeBytes written (kept directory), fun directory => ?_⟩
    rw [get?_writeBytes written] at directory
    split at directory
    · cases directory
    · exact made directory

section Atomic

variable (forward : ".." ∉ p.names) (named : p.names ≠ [])
include forward named

theorem exists_temporary_of_forward (base : List String) :
    ∃ name temporary, p.fileName? = some name ∧ p.temporary? = some temporary ∧
      temporary.key base = (p.key base).dropLast ++ [name ++ ".tmp"] ∧
      temporary.key base ≠ p.key base := by
  obtain ⟨names, name, whole, inner, last⟩ := exists_names_of_forward forward named
  obtain ⟨temporary, has_temporary, temporary_names, same⟩ := exists_temporary_of_names whole last
  have key : p.key base = p.start base ++ names ++ [name] := by
    rw [key_of_forward forward, whole, List.append_assoc]
  have temporary_key : temporary.key base = p.start base ++ names ++ [name ++ ".tmp"] := by
    rw [key_of_forward, start_congr same, temporary_names, List.append_assoc]
    rw [temporary_names, List.mem_append, List.mem_singleton, not_or]
    exact ⟨inner, (temporaryName_ne name (by decide)).symm⟩
  refine ⟨name, temporary, fileName?_of_names whole last, has_temporary, ?_, ?_⟩
  · rw [temporary_key, key, List.dropLast_concat]
  · rw [temporary_key, key]
    intro same
    have same : name ++ ".tmp" = name := by simpa using List.append_cancel_left same
    have longer := congrArg String.length same
    rw [String.length_append] at longer
    have four : ".tmp".length = 4 := rfl
    omega

theorem get?_key_of_replace_error (h : t.replace base p s trouble = (.error e, u)) :
    u.get? (p.key base) = t.get? (p.key base) := by
  obtain ⟨name, temporary, -, has_temporary, -, apart⟩ :=
    exists_temporary_of_forward forward named base
  have lasting (other : Path) (same : p.temporary? = some other) :
      p.key base ≠ other.key base := by
    obtain rfl : temporary = other := Option.some.inj (has_temporary.symm.trans same)
    exact apart.symm
  rcases get?_of_replace_error h lasting with same | ⟨⟨parent, has_parent, mem⟩, -⟩
  · exact same
  · exact absurd rfl ((onTheWay_of_mem_along forward named has_parent mem).ne_key forward)

/-- After a replacement that fails the path leads to what it led to before. -/
theorem stat_of_replace_error (closed : t.Closed)
    (h : t.replace base p s trouble = (.error e, u)) (n : Node) :
    u.stat base p = .ok n ↔ t.stat base p = .ok n := by
  have same := get?_key_of_replace_error forward named h
  constructor
  · intro found
    refine stat_of_same (fun q directory => ?_) same.symm found
    rcases (directory_of_replace_error h).2 directory with before | ⟨parent, has_parent, mem⟩
    · exact before
    obtain ⟨more, filled, below⟩ :=
      (onTheWay_of_mem_along forward named has_parent mem).exists_key forward
    have there : t.get? (q ++ more) ≠ none := by
      rw [← below, ← same, get?_of_stat found]
      exact Option.some_ne_none n
    exact closed.directory there filled
  · intro found
    exact stat_of_same (fun q => (directory_of_replace_error h).1) same found

end Atomic

theorem get?_temporary_of_replace {temporary : Path}
    (has_temporary : p.temporary? = some temporary) (apart : temporary.key base ≠ p.key base)
    (h : t.replace base p s trouble = (.ok (), u)) : u.get? (temporary.key base) = none := by
  obtain ⟨parent, name, t₁, t₂, has_parent, has_name, -, -, renamed⟩ := replace_ok h
  obtain rfl : temporary = temporaryIn parent name :=
    Option.some.inj (has_temporary.symm.trans (temporary?_eq has_parent has_name))
  obtain ⟨source, goal, from_temporary, to_file, moved⟩ := rename_eq_ok renamed
  obtain ⟨-, -, bytes, -, after⟩ := get?_moveTo moved
  rw [after, key_of_target from_temporary, key_of_target to_file, if_neg apart, if_pos rfl]

end Tree

namespace SourceFile

variable {t u : Tree} {base : List String} {f : SourceFile} {s text : String} {trouble : Trouble}

theorem read_eq_ok_iff : f.read t base = .ok text ↔ t.readText base f.path = .ok text := by
  unfold read
  split <;> simp_all

theorem write_eq_ok_iff :
    f.write t base s trouble = (.ok (), u) ↔ t.replace base f.path s trouble = (.ok (), u) := by
  unfold write
  split <;> simp_all

theorem write_eq_error {e : SourceError} (h : f.write t base s trouble = (.error e, u)) :
    ∃ e, t.replace base f.path s trouble = (.error e, u) := by
  unfold write at h
  split at h
  · cases h
  · rename_i e after failed
    obtain rfl : after = u := (Prod.mk.inj h).2
    exact ⟨e, failed⟩

end SourceFile

namespace Tree
open LintRepair.Path

variable {t u : Tree} {base : List String} {p : Path} {s : String}
variable {trouble : Trouble} {answer : Except ReplaceError Unit}

/-- Whatever step of a replacement fails, the path leads to the new text and the temporary file is
gone, or the path leads to what it led to before. Either way nothing else changes but that missing
directories on the way are made. So a source is read as it was written last with success. -/
theorem replace_atomic (forward : ".." ∉ p.names) (named : p.names ≠ [])
    (h : t.replace base p s trouble = (answer, u)) :
    ∃ name temporary, p.fileName? = some name ∧
      temporary.key base = (p.key base).dropLast ++ [name ++ ".tmp"] ∧
      (answer = .ok () → u.readText base p = .ok s ∧
        u.get? (temporary.key base) = none ∧ u.exists? base temporary = false) ∧
      (∀ e, answer = .error e → u.get? (p.key base) = t.get? (p.key base) ∧
        (t.Closed → ∀ n, u.stat base p = .ok n ↔ t.stat base p = .ok n)) ∧
      (∀ q, q ≠ p.key base → q ≠ temporary.key base → u.get? q = t.get? q ∨
        OnTheWay base p q ∧ t.get? q = none ∧ u.get? q = some .directory) ∧
      ∀ (f : SourceFile) done after, f.path = p → f.write t base s trouble = (done, after) →
        (done = .ok () → f.read after base = .ok s) ∧
        (∀ e, done = .error e → t.Closed →
          ∀ text, f.read after base = .ok text ↔ f.read t base = .ok text) := by
  obtain ⟨name, temporary, has_name, has_temporary, beside, apart⟩ :=
    exists_temporary_of_forward forward named base
  refine ⟨name, temporary, has_name, beside, ?_, ?_, fun q other lasting => ?_, ?_⟩
  · rintro rfl
    have gone := get?_temporary_of_replace has_temporary apart h
    exact ⟨readText_of_replace h, gone, exists?_of_absent gone⟩
  · rintro e rfl
    exact ⟨get?_key_of_replace_error forward named h,
      fun closed => stat_of_replace_error forward named closed h⟩
  · have elsewhere : ∀ other, p.temporary? = some other → q ≠ other.key base := by
      intro other same
      rw [has_temporary] at same
      exact Option.some.inj same ▸ lasting
    rcases get?_replace h other elsewhere with same | ⟨⟨parent, has_parent, mem⟩, made⟩
    · exact .inl same
    · exact .inr ⟨onTheWay_of_mem_along forward named has_parent mem, made⟩
  · rintro f done after rfl written
    constructor
    · rintro rfl
      exact SourceFile.read_eq_ok_iff.mpr
        (readText_of_replace (SourceFile.write_eq_ok_iff.mp written))
    · rintro e rfl closed text
      obtain ⟨e', failed⟩ := SourceFile.write_eq_error written
      rw [SourceFile.read_eq_ok_iff, SourceFile.read_eq_ok_iff]
      exact readText_congr (stat_of_replace_error forward named closed failed) text

/-- A directory with a file in it, and with what an earlier replacement of that file left. -/
def halfReplaced : Tree :=
  ⟨[(["a"], .directory), (["a", "f"], .file (utf8 "old")), (["a", "f.tmp"], .file (utf8 "n"))]⟩

theorem replace_atomic_halfReplaced :
    (∃ u, halfReplaced.replace [] ⟨"a/f"⟩ "new" = (.ok (), u) ∧
        u.readText [] ⟨"a/f"⟩ = .ok "new" ∧ u.get? ["a", "f.tmp"] = none) ∧
      ∃ e u, SourceFile.write ⟨⟨"a"⟩, ⟨"f"⟩⟩ halfReplaced [] "new"
          ⟨none, none, some .noPermission⟩ = (.error e, u) ∧
        SourceFile.read ⟨⟨"a"⟩, ⟨"f"⟩⟩ u [] = .ok "old" := by
  have forward : ".." ∉ Path.names ⟨"a/f"⟩ := by decide
  have named : Path.names ⟨"a/f"⟩ ≠ [] := by decide
  constructor
  · rcases stepped : halfReplaced.replace [] ⟨"a/f"⟩ "new" with ⟨answer, u⟩
    have done : (halfReplaced.replace [] ⟨"a/f"⟩ "new").1 = .ok () := by decide
    rw [stepped] at done
    obtain rfl : answer = .ok () := done
    obtain ⟨name, temporary, has_name, beside, replaced, -⟩ :=
      replace_atomic forward named stepped
    obtain ⟨read, gone, -⟩ := replaced rfl
    have last : Path.fileName? ⟨"a/f"⟩ = some "f" := by decide
    obtain rfl : "f" = name := Option.some.inj (last.symm.trans has_name)
    have key : Path.key [] ⟨"a/f"⟩ = ["a", "f"] := by decide
    rw [beside, key] at gone
    exact ⟨u, rfl, read, gone⟩
  · rcases stepped : halfReplaced.replace [] ⟨"a/f"⟩ "new" ⟨none, none, some .noPermission⟩ with
      ⟨answer, u⟩
    obtain ⟨-, -, -, -, -, -, -, stored⟩ := replace_atomic forward named stepped
    have path : SourceFile.path ⟨⟨"a"⟩, ⟨"f"⟩⟩ = ⟨"a/f"⟩ := by decide
    have failed : (SourceFile.write ⟨⟨"a"⟩, ⟨"f"⟩⟩ halfReplaced [] "new"
        ⟨none, none, some .noPermission⟩).1 =
          .error (.replace (.rename ⟨"a/f"⟩ .noPermission)) := by decide
    have before : SourceFile.read ⟨⟨"a"⟩, ⟨"f"⟩⟩ halfReplaced [] = .ok "old" := by decide
    have closed : halfReplaced.Closed := Closed.of_entries (by decide)
    have kept := (stored _ _ _ path rfl).2 _ failed closed "old"
    exact ⟨_, _, Prod.ext failed rfl, kept.mpr before⟩

end Tree
end LintRepair
