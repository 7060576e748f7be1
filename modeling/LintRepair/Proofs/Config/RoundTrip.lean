import LintRepair.Proofs.Config.Usable
import LintRepair.Proofs.Files.Replace
import LintRepair.Proofs.Toml.Document
import Mathlib.Data.List.Forall2
import Mathlib.Data.List.Nodup

/-!
A configuration that was written is loaded as it was, whatever its texts hold. Every field is
written, so no default stands in for a value, and the entries of each record come in the order of
its fields.
-/
namespace LintRepair

namespace Config
open Toml

section Values
variable {α : Type}

theorem wordOf_integer {bound n : Nat} (small : n < bound) :
    wordOf bound (.integer n) = .ok n := if_pos small

theorem readWord32_toNat (n : UInt32) : readWord32 (.integer n.toNat) = .ok n := by
  rw [readWord32, wordOf_integer n.toNat_lt]
  exact congrArg Except.ok UInt32.ofNat_toNat

theorem readWord64_toNat (n : UInt64) : readWord64 (.integer n.toNat) = .ok n := by
  rw [readWord64, wordOf_integer n.toNat_lt]
  exact congrArg Except.ok UInt64.ofNat_toNat

theorem readText_text (s : String) : readText (.text s) = .ok s := rfl

theorem readFlag_bool (b : Bool) : readFlag (.bool b) = .ok b := rfl

theorem readTexts_array (ss : List String) : readTexts (.array (ss.map .text)) = .ok ss := by
  show (ss.map Value.text).mapM readText = .ok ss
  induction ss with
  | nil => rfl
  | cons s ss ih =>
    rw [List.map_cons, List.mapM_cons, ih]
    rfl

theorem readBackend_name (b : Backend) : readBackend (.text b.name) = .ok b := by
  rw [readBackend, Backend.ofName?_name]

end Values

section Record
variable {fields : List Field} {es : Entries}

/-- The entry is the field's, and its value is one that the field can have. -/
def Fits (f : Field) (e : String × Value) : Prop := e.1 = f.name ∧ f.misfit? e.2 = none

theorem fits_of_read {α : Type} {name : String} {read : Value → Except Misfit α} {required : Bool}
    {v : Value} {a : α} (h : read v = .ok a) : Fits (.of name read required) (name, v) := by
  refine ⟨rfl, ?_⟩
  rw [Field.of]
  simp only [h]

theorem lookup_of_mem {e : String × Value} (distinct : (es.map Prod.fst).Nodup) (mem : e ∈ es) :
    es.lookup e.1 = some e.2 := by
  induction es with
  | nil => cases mem
  | cons d es ih =>
    obtain ⟨key, v⟩ := d
    rw [List.map_cons, List.nodup_cons] at distinct
    rw [List.lookup_cons]
    rcases List.mem_cons.mp mem with rfl | mem
    · simp
    · have other : e.1 ≠ key := fun same => distinct.1 (List.mem_map.mpr ⟨e, mem, same⟩)
      have skip : (e.1 == key) = false := by simpa using other
      rw [skip]
      exact ih distinct.2 mem

/-- An entry that fits a field is no misfit, as no other field has that name. -/
theorem entryMisfit?_of_fits {f : Field} {e : String × Value} (mem : f ∈ fields) (fits : Fits f e)
    (distinct : (fields.map Field.name).Nodup) : entryMisfit? fields e = none := by
  unfold entryMisfit?
  split
  · rename_i f' found
    have named := List.find?_some found
    rw [decide_eq_true_eq] at named
    obtain rfl : f' = f := List.inj_on_of_nodup_map distinct (List.mem_of_find?_eq_some found) mem
      (named.trans fits.1)
    exact fits.2
  · rename_i missing
    have other := List.find?_eq_none.mp missing f mem
    exact absurd (decide_eq_true fits.1.symm) other

/-- A record with an entry for each field, in their order, is read value by value. -/
theorem readRecord_of_fits {origin : Origin} (fit : List.Forall₂ Fits fields es)
    (distinct : (fields.map Field.name).Nodup) :
    readRecord fields (.table origin es) = .ok (es.map fun e => some e.2) := by
  have names : es.map Prod.fst = fields.map Field.name := by
    clear distinct
    induction fit with
    | nil => rfl
    | cons fits _ ih => rw [List.map_cons, List.map_cons, fits.1, ih]
  have found {e : String × Value} (mem : e ∈ es) : es.lookup e.1 = some e.2 :=
    lookup_of_mem (names ▸ distinct) mem
  have fitted {f : Field} {e : String × Value} (mem : (f, e) ∈ fields.zip es) : Fits f e :=
    (List.forall₂_iff_zip.mp fit).2 mem
  have same_length : fields.length = es.length := fit.length_eq
  have values : fields.map (fun f => es.lookup f.name) = es.map fun e => some e.2 := by
    apply List.ext_getElem (by simp [same_length])
    intro i left right
    rw [List.length_map] at left right
    have pair := fitted (List.mem_iff_getElem.mpr ⟨i, by simp; omega, List.getElem_zip⟩)
    rw [List.getElem_map, List.getElem_map, ← pair.1]
    exact found (List.getElem_mem right)
  have passed : (sorted es).findSome? (entryMisfit? fields) = none := by
    rw [List.findSome?_eq_none_iff]
    intro e mem
    rw [sorted, List.mem_mergeSort] at mem
    obtain ⟨i, inside, rfl⟩ := List.mem_iff_getElem.mp mem
    have pair := fitted (f := fields[i]) (List.mem_iff_getElem.mpr
      ⟨i, by simp; omega, List.getElem_zip⟩)
    exact entryMisfit?_of_fits (List.getElem_mem _) pair distinct
  have complete : fields.find? (fun f => f.required && (es.lookup f.name).isNone) = none := by
    rw [List.find?_eq_none]
    intro f mem
    have there : es.lookup f.name ∈ es.map fun e => some e.2 :=
      values ▸ List.mem_map_of_mem (f := fun f : Field => es.lookup f.name) mem
    obtain ⟨e, -, value⟩ := List.mem_map.mp there
    simp [← value]
  simp only [readRecord, entries?, passed, complete, values]

end Record

section Layout
variable {c : Config}

def pairs (c : Config) : List (String × Item) :=
  [("max_iterations", .number c.maxIterations.toNat),
    ("lint_timeout_secs", .number c.lintTimeout.toNat),
    ("agent_timeout_secs", .number c.agentTimeout.toNat),
    ("output_limit_bytes", .number c.outputLimit.toNat),
    ("source_path", .text c.source.text), ("log_iterations", .flag c.logIterations)]

/-- The sections of a configuration's text. -/
def sections (c : Config) : List (String × List (String × Item)) :=
  [("lint", [("command", .texts c.lint.command), ("explain_command", .texts c.lint.explain)]),
    ("format", [("command", .texts c.format)]),
    ("agent", [("backend", .text c.agent.backend.name), ("model", .text c.agent.model),
      ("max_tokens", .number c.agent.maxTokens.toNat)])]

/-- The commands that find and explain errors, as a table. -/
def lintTable (commands : LintCommands) : Value :=
  .table .header [("command", .array (commands.command.map .text)),
    ("explain_command", .array (commands.explain.map .text))]

/-- The command that formats, as a table. -/
def formatTable (command : List String) : Value :=
  .table .header [("command", .array (command.map .text))]

/-- The service that is asked, as a table. -/
def agentTable (choice : AgentChoice) : Value :=
  .table .header [("backend", .text choice.backend.name), ("model", .text choice.model),
    ("max_tokens", .integer choice.maxTokens.toNat)]

def table (c : Config) : Entries :=
  [("max_iterations", .integer c.maxIterations.toNat),
    ("lint_timeout_secs", .integer c.lintTimeout.toNat),
    ("agent_timeout_secs", .integer c.agentTimeout.toNat),
    ("output_limit_bytes", .integer c.outputLimit.toNat),
    ("source_path", .text c.source.text), ("log_iterations", .bool c.logIterations),
    ("lint", lintTable c.lint), ("format", formatTable c.format), ("agent", agentTable c.agent)]

theorem toText_eq (c : Config) : c.toText = String.ofList (layout c.pairs c.sections) ++ "\n" := rfl

theorem read?_toText (c : Config) : Toml.read? c.toText = some c.table := by
  have laid_out : Toml.read? (String.ofList (layout c.pairs c.sections) ++ "\n") =
      some (entriesOf c.pairs ++ c.sections.map entryOf) := by
    apply read?_layout
    · show ["max_iterations", "lint_timeout_secs", "agent_timeout_secs", "output_limit_bytes",
        "source_path", "log_iterations", "lint", "format", "agent"].all isBareKey = true
      decide
    · show [["command", "explain_command"], ["command"], ["backend", "model", "max_tokens"]].all
        (·.all isBareKey) = true
      decide
    · show ["max_iterations", "lint_timeout_secs", "agent_timeout_secs", "output_limit_bytes",
        "source_path", "log_iterations", "lint", "format", "agent"].Nodup
      decide
    · simp [sections]
  rw [toText_eq]
  exact laid_out

theorem readLint_table (commands : LintCommands) :
    readLint (lintTable commands) = .ok commands := by
  have record : readRecord lintFields (lintTable commands) = .ok _ :=
    readRecord_of_fits (.cons (fits_of_read (readTexts_array commands.command))
      (.cons (fits_of_read (readTexts_array commands.explain)) .nil)) (by decide)
  rw [readLint, record]
  show (do
    let command ← readTexts (.array (commands.command.map .text))
    let explain ← readTexts (.array (commands.explain.map .text))
    return { command := command, explain := explain }) = Except.ok commands
  rw [readTexts_array, readTexts_array]
  rfl

theorem readFormat_table (command : List String) :
    readFormat (formatTable command) = .ok command := by
  have record : readRecord formatFields (formatTable command) = .ok _ :=
    readRecord_of_fits (.cons (fits_of_read (readTexts_array command)) .nil) (by decide)
  rw [readFormat, record]
  exact readTexts_array command

theorem readAgent_table (choice : AgentChoice) : readAgent (agentTable choice) = .ok choice := by
  have record : readRecord agentFields (agentTable choice) = .ok _ :=
    readRecord_of_fits (.cons (fits_of_read (readBackend_name choice.backend))
      (.cons (fits_of_read (readText_text choice.model))
        (.cons (fits_of_read (readWord32_toNat choice.maxTokens)) .nil))) (by decide)
  rw [readAgent, record]
  show (do
    let backend ← readBackend (.text choice.backend.name)
    let maxTokens ← readWord32 (.integer choice.maxTokens.toNat)
    return { backend := backend, model := choice.model, maxTokens := maxTokens }) = Except.ok choice
  rw [readBackend_name, readWord32_toNat]
  rfl

theorem ofValue_table (c : Config) : ofValue (.table .header c.table) = .ok c := by
  have record : readRecord fields (.table .header c.table) = .ok _ :=
    readRecord_of_fits (.cons (fits_of_read (readWord32_toNat c.maxIterations))
      (.cons (fits_of_read (readWord64_toNat c.lintTimeout))
        (.cons (fits_of_read (readWord64_toNat c.agentTimeout))
          (.cons (fits_of_read (readWord64_toNat c.outputLimit))
            (.cons (fits_of_read (readText_text c.source.text))
              (.cons (fits_of_read (readFlag_bool c.logIterations))
                (.cons (fits_of_read (readLint_table c.lint))
                  (.cons (fits_of_read (readFormat_table c.format))
                    (.cons (fits_of_read (readAgent_table c.agent)) .nil))))))))) (by decide)
  rw [ofValue, record]
  show (do
    let maxIterations ← readWord32 (.integer c.maxIterations.toNat)
    let lintTimeout ← readWord64 (.integer c.lintTimeout.toNat)
    let agentTimeout ← readWord64 (.integer c.agentTimeout.toNat)
    let outputLimit ← readWord64 (.integer c.outputLimit.toNat)
    let lint ← readLint (lintTable c.lint)
    let format ← readFormat (formatTable c.format)
    let agent ← readAgent (agentTable c.agent)
    return { maxIterations := maxIterations, lintTimeout := lintTimeout
             agentTimeout := agentTimeout, outputLimit := outputLimit, source := c.source
             logIterations := c.logIterations, lint := lint, format := format
             agent := agent }) = Except.ok c
  rw [readWord32_toNat, readWord64_toNat, readWord64_toNat, readWord64_toNat, readLint_table,
    readFormat_table, readAgent_table]
  rfl

/-- A configuration is what its text stands for. -/
theorem ofText_toText (c : Config) : ofText c.toText = .ok c := by
  rw [ofText, read?_toText]
  exact ofValue_table c

end Layout

section Files
variable {t after : Tree} {base : List String} {p : Path} {c : Config}

theorem write_of_validate_error {e : SetupError} (h : c.validate = .error e) :
    c.write t base p = (.error (.setup e), t) := by
  rw [write, h]

/-- A configuration is written only if it is usable, and by a replacement of the file. -/
theorem write_eq_ok (h : c.write t base p = (.ok (), after)) :
    c.validate = .ok () ∧ t.replace base p c.toText = (.ok (), after) := by
  unfold write at h
  split at h
  · cases h
  rename_i usable
  refine ⟨usable, ?_⟩
  split at h
  · rename_i replaced
    rw [replaced, (Prod.mk.inj h).2]
  · cases h

theorem write_eq_error {e : ConfigError} (h : c.write t base p = (.error e, after)) :
    (∃ f, e = .setup f ∧ after = t) ∨
      ∃ f, e = .replace f ∧ c.validate = .ok () ∧
        t.replace base p c.toText = (.error f, after) := by
  unfold write at h
  split at h
  · rename_i f refused
    obtain ⟨failed, same⟩ := Prod.mk.inj h
    exact .inl ⟨f, (Except.error.inj failed).symm, same.symm⟩
  rename_i usable
  split at h
  · cases h
  · rename_i f u stopped
    obtain ⟨failed, rfl⟩ := Prod.mk.inj h
    exact .inr ⟨f, (Except.error.inj failed).symm, usable, stopped⟩

theorem load_of_readText (usable : c.validate = .ok ()) (text : t.readText base p = .ok c.toText) :
    load t base p = .ok c := by
  unfold load
  rw [if_pos (Tree.exists?_of_readText text), text]
  simp only [ofText_toText, usable]

theorem load_of_write (h : c.write t base p = (.ok (), after)) : load after base p = .ok c := by
  obtain ⟨usable, replaced⟩ := write_eq_ok h
  exact load_of_readText usable (Tree.readText_of_replace replaced)

/-- Whatever a configuration is and wherever it is written: if writing succeeds, the same
configuration is loaded from there, and a configuration with a fault is refused with that fault and
nothing is touched. -/
theorem write_loads (c : Config) (t : Tree) (base : List String) (p : Path) :
    (∀ after, c.write t base p = (.ok (), after) → load after base p = .ok c) ∧
      ∀ e, c.validate = .error e →
        (∃ f, e = .invalid f) ∧ c.write t base p = (.error (.setup e), t) := by
  refine ⟨fun after => load_of_write, fun e refused => ⟨?_, write_of_validate_error refused⟩⟩
  unfold validate at refused
  split at refused
  · cases refused
  · exact ⟨_, (Except.error.inj refused).symm⟩

/-- Texts that no form of a string holds as they are. -/
def intricate : Config :=
  { maxIterations := 4294967295, lintTimeout := 18446744073709551615, agentTimeout := 1
    source := ⟨"a '''b\"\"\".rs"⟩, logIterations := false
    lint := ⟨["\\'\"", "\n\"\"\"\"\n\r\x00", ""], []⟩, format := ["'''\x7f"]
    agent := ⟨.openAi, "\\\n\t'''\"\"\"\x1b", 1⟩ }

theorem write_loads_intricate :
    let after : Tree :=
      ⟨[(["p", "config.toml"], .file (utf8 intricate.toText)), (["p"], .directory)]⟩
    intricate.write {} ["home"] ⟨"/p/config.toml"⟩ = (.ok (), after) ∧
      load after ["home"] ⟨"/p/config.toml"⟩ = .ok intricate := by
  intro after
  have usable : intricate.validate = .ok () := by decide
  have replaced (s : String) : Tree.replace {} ["home"] ⟨"/p/config.toml"⟩ s =
      (.ok (), ⟨[(["p", "config.toml"], .file (utf8 s)), (["p"], .directory)]⟩) := by rfl
  have written : intricate.write {} ["home"] ⟨"/p/config.toml"⟩ = (.ok (), after) := by
    rw [write, usable]
    simp only [replaced]
    rfl
  exact ⟨written, (write_loads intricate {} ["home"] ⟨"/p/config.toml"⟩).1 _ written⟩

end Files
end Config
end LintRepair
