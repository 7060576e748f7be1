import LintRepair.Config.Basic
import LintRepair.Toml.Reader
import LintRepair.Toml.Writer

/-!
Configurations as TOML. Values are looked at in the order of their keys, and the first that does not
fit decides; only then is a missing value one, the first in the order of the fields. Keys of other
names count for nothing, as long as their values are within bounds. A record may also be an array of
its values in the order of the fields. A date or a time counts as a record whose keys are all of
other names.
-/
namespace LintRepair.Config
open Toml

def wordOf (bound : Nat) : Value → Except Misfit Nat
  | .integer (.ofNat n) => if n < bound then .ok n else .error .malformed
  | _ => .error .malformed

def readWord32 (v : Value) : Except Misfit UInt32 := (wordOf UInt32.size v).map UInt32.ofNat

def readWord64 (v : Value) : Except Misfit UInt64 := (wordOf UInt64.size v).map UInt64.ofNat

def readFlag : Value → Except Misfit Bool
  | .bool b => .ok b
  | _ => .error .malformed

def readText : Value → Except Misfit String
  | .text s => .ok s
  | _ => .error .malformed

def items? : Value → Option (List Value)
  | .array items => some items
  | .tables earlier last => some ((earlier.reverse ++ [last]).map (.table .header))
  | _ => none

def readTexts (v : Value) : Except Misfit (List String) :=
  match items? v with
  | some items => items.mapM readText
  | none => .error .malformed

/-- A value without content: what may stand behind a name that needs none. -/
def isEmpty : Value → Bool
  | .array [] => true
  | .table _ [] => true
  | _ => false

/-- A service by its name, or as a table with its name as the only key. -/
def readBackend : Value → Except Misfit Backend
  | .text name =>
    match Backend.ofName? name with
    | some b => .ok b
    | none => .error (.unknownBackend name)
  | .table _ [(name, v)] =>
    match Backend.ofName? name with
    | some b => if isEmpty v then .ok b else .error .malformed
    | none => .error (.unknownBackend name)
  | _ => .error .malformed

mutual

/-- A value that may be passed over: its numbers are numbers and within bounds. -/
def isPassable : Value → Bool
  | .integer (.ofNat n) => n < UInt64.size * UInt64.size
  | .integer (.negSucc n) => n < UInt64.size * UInt64.size / 2
  | .noNumber => false
  | .float inRange => inRange
  | .array items => allPassable items
  | .table _ es => entriesPassable es
  | .tables earlier last => tablesPassable earlier && entriesPassable last
  | _ => true

def allPassable : List Value → Bool
  | [] => true
  | v :: vs => isPassable v && allPassable vs

def entriesPassable : List (String × Value) → Bool
  | [] => true
  | (_, v) :: es => isPassable v && entriesPassable es

def tablesPassable : List (List (String × Value)) → Bool
  | [] => true
  | es :: ess => entriesPassable es && tablesPassable ess

end

/-- A field of a record: its name and whether a value fits it. -/
structure Field where
  name : String
  misfit? : Value → Option Misfit
  required : Bool

def Field.of {α : Type} (name : String) (read : Value → Except Misfit α) (required : Bool) :
    Field :=
  ⟨name, fun v => match read v with
    | .ok _ => none
    | .error m => some m, required⟩

def entryMisfit? (fields : List Field) (e : String × Value) : Option Misfit :=
  match fields.find? (·.name = e.1) with
  | some f => f.misfit? e.2
  | none => if isPassable e.2 then none else some .malformed

def sorted (es : Entries) : Entries := es.mergeSort fun a b => a.1 ≤ b.1

def entries? : Value → Option Entries
  | .table _ es => some es
  | .moment => some []
  | _ => none

/-- The values of the fields of a record, if all fit and none that is required is missing. -/
def readRecord (fields : List Field) (v : Value) : Except Misfit (List (Option Value)) :=
  match entries? v, items? v with
  | some es, _ =>
    match (sorted es).findSome? (entryMisfit? fields) with
    | some m => .error m
    | none =>
      match fields.find? fun f => f.required && (es.lookup f.name).isNone with
      | some f => .error (.missingField f.name)
      | none => .ok (fields.map fun f => es.lookup f.name)
  | _, some items =>
    match (fields.zip items).findSome? fun p => p.1.misfit? p.2 with
    | some m => .error m
    | none =>
      if (fields.drop items.length).any (·.required) then .error .malformed
      else .ok (fields.mapIdx fun i _ => items[i]?)
  | _, none => .error .malformed

def valueOr {α : Type} (read : Value → Except Misfit α) (default : α) :
    Option Value → Except Misfit α
  | none => .ok default
  | some v => read v

def valueOf {α : Type} (read : Value → Except Misfit α) : Option Value → Except Misfit α
  | none => .error .malformed
  | some v => read v

def lintFields : List Field :=
  [.of "command" readTexts false, .of "explain_command" readTexts false]

def readLint (v : Value) : Except Misfit LintCommands := do
  match ← readRecord lintFields v with
  | [command, explain] =>
    let defaults : LintCommands := {}
    return { command := ← valueOr readTexts defaults.command command
             explain := ← valueOr readTexts defaults.explain explain }
  | _ => .error .malformed

def formatFields : List Field := [.of "command" readTexts false]

def readFormat (v : Value) : Except Misfit (List String) := do
  match ← readRecord formatFields v with
  | [command] => valueOr readTexts defaultFormat command
  | _ => .error .malformed

def agentFields : List Field :=
  [.of "backend" readBackend true, .of "model" readText true, .of "max_tokens" readWord32 false]

def readAgent (v : Value) : Except Misfit AgentChoice := do
  match ← readRecord agentFields v with
  | [backend, model, maxTokens] =>
    return { backend := ← valueOf readBackend backend
             model := ← valueOf readText model
             maxTokens := ← valueOr readWord32 4096 maxTokens }
  | _ => .error .malformed

def fields : List Field :=
  [.of "max_iterations" readWord32 true, .of "lint_timeout_secs" readWord64 true,
    .of "agent_timeout_secs" readWord64 true, .of "output_limit_bytes" readWord64 false,
    .of "source_path" readText false, .of "log_iterations" readFlag false,
    .of "lint" readLint false, .of "format" readFormat false, .of "agent" readAgent true]

def ofValue (v : Value) : Except Misfit Config := do
  match ← readRecord fields v with
  | [iterations, lintTimeout, agentTimeout, limit, source, log, lint, format, agent] =>
    return { maxIterations := ← valueOf readWord32 iterations
             lintTimeout := ← valueOf readWord64 lintTimeout
             agentTimeout := ← valueOf readWord64 agentTimeout
             outputLimit := ← valueOr readWord64 1000000 limit
             source := ⟨← valueOr readText "src/main.rs" source⟩
             logIterations := ← valueOr readFlag true log
             lint := ← valueOr readLint {} lint
             format := ← valueOr readFormat defaultFormat format
             agent := ← valueOf readAgent agent }
  | _ => .error .malformed

def ofText (s : String) : Except Misfit Config :=
  match Toml.read? s with
  | none => .error .malformed
  | some es => ofValue (.table .header es)

def toText (c : Config) : String :=
  String.ofList (Toml.layout
    [("max_iterations", .number c.maxIterations.toNat),
      ("lint_timeout_secs", .number c.lintTimeout.toNat),
      ("agent_timeout_secs", .number c.agentTimeout.toNat),
      ("output_limit_bytes", .number c.outputLimit.toNat),
      ("source_path", .text c.source.text), ("log_iterations", .flag c.logIterations)]
    [("lint", [("command", .texts c.lint.command), ("explain_command", .texts c.lint.explain)]),
      ("format", [("command", .texts c.format)]),
      ("agent", [("backend", .text c.agent.backend.name), ("model", .text c.agent.model),
        ("max_tokens", .number c.agent.maxTokens.toNat)])]) ++ "\n"

end LintRepair.Config
