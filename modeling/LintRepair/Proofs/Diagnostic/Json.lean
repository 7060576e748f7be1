import LintRepair.CommandLine.Run
import LintRepair.Proofs.Files.Read
import LintRepair.Proofs.Json.Pretty
import LintRepair.Proofs.Json.Record
import LintRepair.Proofs.Loop.Journal
import LintRepair.Proofs.Loop.Service

/-!
Diagnostics are read back from the JSON text that is printed for them and kept in a journal,
whatever their texts hold: every field is written, and help that is missing is written as null.
-/
namespace LintRepair

namespace Tree
variable {t u : Tree} {base : List String} {files : List (Path × String)} {p : Path} {s : String}

theorem readText_of_writeAll_of_ne (h : t.writeAll base files = (.ok (), u))
    (apart : ∀ f ∈ files, p.key base ≠ f.1.key base) (read : t.readText base p = .ok s) :
    u.readText base p = .ok s := by
  induction files generalizing t with
  | nil =>
    obtain rfl := (Prod.mk.inj h).2
    exact read
  | cons f files ih =>
    unfold writeAll at h
    split at h
    · cases h
    · rename_i after written
      refine ih h (fun g hg => apart g (List.mem_cons_of_mem _ hg)) ?_
      exact readText_of_writeText_of_ne written (apart f List.mem_cons_self) read

/-- Each of some files with keys of their own is read as it was written. -/
theorem readText_of_writeAll (h : t.writeAll base files = (.ok (), u))
    (distinct : (files.map fun f => f.1.key base).Nodup) (mem : (p, s) ∈ files) :
    u.readText base p = .ok s := by
  induction files generalizing t with
  | nil => cases mem
  | cons f files ih =>
    rw [List.map_cons, List.nodup_cons] at distinct
    unfold writeAll at h
    split at h
    · cases h
    · rename_i after written
      rcases List.mem_cons.mp mem with rfl | mem
      · refine readText_of_writeAll_of_ne h (fun g hg same => ?_) (readText_of_writeText written)
        exact distinct.1 (List.mem_map.mpr ⟨g, hg, same.symm⟩)
      · exact ih h distinct.2 mem

/-- The diagnostics of a journal entry are read as they were written. -/
theorem readText_of_writeEntry {dir : Path} {e : Entry}
    (h : t.writeEntry base dir e = (.ok (), u)) :
    u.readText base (e.places dir).diagnostics =
      .ok (Diagnostic.listJsonText e.diagnostics ++ "\n") := by
  unfold writeEntry at h
  split at h
  · cases h
  · exact readText_of_writeAll h (nodup_files rfl) (by simp [Entry.files])

end Tree

namespace Diagnostic
open Json

variable {d : Diagnostic} {ds : List Diagnostic}

theorem ofJson?_toJson (d : Diagnostic) : ofJson? d.toJson = some d := by
  obtain ⟨code, title, location, context, help⟩ := d
  have fields : (toJson ⟨code, title, location, context, help⟩).HasFields
      [("code", some (.ofString code)), ("title", some (.ofString title)),
        ("location", some (.ofString location)), ("context", some (.ofString context)),
        ("help", some (.ofString? help))] := by
    refine ⟨_, rfl, ?_⟩
    simp
  have record : (toJson ⟨code, title, location, context, help⟩).record? fieldNames = some _ :=
    Value.record?_of_hasFields fields
  rw [ofJson?, record]
  cases help <;> rfl

theorem mapM_ofJson?_toJson (ds : List Diagnostic) : (ds.map toJson).mapM ofJson? = some ds := by
  induction ds with
  | nil => rfl
  | cons d ds ih => simp [ofJson?_toJson, ih]

theorem hasNumerals_toJson (d : Diagnostic) : HasNumerals d.toJson.tokens := by
  have text (s : String) : HasNumerals (Value.ofString s).tokens := hasNumerals_nil.cons rfl
  have help : HasNumerals (Value.ofString? d.help).tokens := by
    cases d.help with
    | none => exact hasNumerals_nil.cons rfl
    | some s => exact text s
  refine hasNumerals_ofMembers ?_
  simp only [List.forall_mem_cons]
  exact ⟨text _, text _, text _, text _, help, nofun⟩

theorem hasNumerals_listToJson (ds : List Diagnostic) : HasNumerals (listToJson ds).tokens :=
  hasNumerals_array (List.forall_mem_map.mpr fun d _ => hasNumerals_toJson d)

theorem isTextOf_listJsonText (ds : List Diagnostic) :
    IsTextOf (listJsonText ds) (listToJson ds) := isTextOf_pretty (hasNumerals_listToJson ds)

theorem listOfJson?_of_isTextOf {s : String} (h : IsTextOf s (listToJson ds)) :
    listOfJson? s = some ds := by
  rw [listOfJson?, read?_of_isTextOf h]
  exact mapM_ofJson?_toJson ds

/-- Whatever diagnostics hold, the JSON text that is printed for them and kept in a journal stands
for these same diagnostics. So what is printed for a text tells what is found in it. -/
theorem listOfJson?_printed :
    (∀ ds : List Diagnostic, listOfJson? (listJsonText ds ++ "\n") = some ds) ∧
      (∀ (u : Surroundings) (file : Option Path) (w : World) (s : String),
        CommandLine.givenText u w.tree file = .ok s →
          ∃ json, CommandLine.extract u file w = (.ok .done, w.print json) ∧
            listOfJson? json = some (extract s)) ∧
      ∀ (t u : Tree) (base : List String) (dir : Path) (e : Entry),
        t.writeEntry base dir e = (.ok (), u) →
          ∃ json, u.readText base (e.places dir).diagnostics = .ok json ∧
            listOfJson? json = some e.diagnostics := by
  have line (ds : List Diagnostic) : listOfJson? (listJsonText ds ++ "\n") = some ds :=
    listOfJson?_of_isTextOf
      ((isTextOf_listJsonText ds).append_blanks (List.forall_mem_singleton.mpr rfl))
  refine ⟨line, fun u file w s given => ?_, fun t u base dir e written => ?_⟩
  · refine ⟨_, ?_, line (extract s)⟩
    unfold CommandLine.extract
    rw [given]
  · exact ⟨_, Tree.readText_of_writeEntry written, line e.diagnostics⟩

/-- Texts that need every kind of escape, with help and without. -/
def intricate : List Diagnostic :=
  [⟨"E1\"", "a\\b\t\x08", "\x00\x1f\x7f\r\n", "\x0cüß😀\u2028", some ""⟩, ⟨"", "", "", "", none⟩]

def intricateEntry : Entry where
  head := ⟨"run", 1, 0, false, 2, false, 0⟩
  lint := ⟨"", "", false⟩
  diagnostics := intricate
  repair := none

theorem listOfJson?_printed_intricate :
    listOfJson? (listJsonText intricate ++ "\n") = some intricate ∧
      (∃ json, CommandLine.extract (Lab.surroundings []) (some ⟨"main.rs"⟩)
          (Lab.world "error[E1]: \"\\\n--> a:1:3\n|\t" []) =
            (.ok .done, (Lab.world "error[E1]: \"\\\n--> a:1:3\n|\t" []).print json) ∧
        listOfJson? json = some [⟨"E1", "\"\\", "--> a:1:3", "|", none⟩]) ∧
      ∃ u json, Tree.writeEntry {} [] ⟨"log"⟩ intricateEntry = (.ok (), u) ∧
        u.readText [] ⟨"log/run/1/diagnostics.json"⟩ = .ok json ∧
          listOfJson? json = some intricate := by
  obtain ⟨texts, printed, kept⟩ := listOfJson?_printed
  refine ⟨texts intricate, ?_, ?_⟩
  · have given : CommandLine.givenText (Lab.surroundings [])
        (Lab.world "error[E1]: \"\\\n--> a:1:3\n|\t" []).tree (some ⟨"main.rs"⟩) =
          .ok "error[E1]: \"\\\n--> a:1:3\n|\t" := by rfl
    have found : extract "error[E1]: \"\\\n--> a:1:3\n|\t" =
        [⟨"E1", "\"\\", "--> a:1:3", "|", none⟩] := by decide +kernel
    rw [← found]
    exact printed _ _ _ _ given
  · rcases written : Tree.writeEntry {} [] ⟨"log"⟩ intricateEntry with ⟨done, u⟩
    have success : (Tree.writeEntry {} [] ⟨"log"⟩ intricateEntry).1 = .ok () := by decide +kernel
    rw [written] at success
    obtain rfl : done = .ok () := success
    obtain ⟨json, read, decoded⟩ := kept _ _ _ _ _ written
    exact ⟨u, json, rfl, read, decoded⟩

end Diagnostic
end LintRepair
