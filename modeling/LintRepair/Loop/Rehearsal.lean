import LintRepair.Loop.Journal
import LintRepair.Loop.Trace

/-!
Collaborators that follow a script: what they answer is fixed call by call. With them a loop can be
tried without commands, services or files.
-/
namespace LintRepair.Rehearsal

structure Script where
  source : Except String String
  path : String := "src/main.rs"
  lints : List (Except String LintOutput) := []
  lintAfter : Except String LintOutput := .error "no scripted lint output left"
  repairs : List (Except String Repair) := []
  echo : Bool := false
  writes : List (Option String) := []
  explanations : List (String × Except String (Option String)) := []
  format : Except String Unit := .ok ()
  iterations : Option Path := none
  runId : String := ""
  /-- How long a cycle takes, in milliseconds. -/
  duration : Cycle → Nat := fun _ => 0

/-- How far a rehearsal is: the calls so far, the stored source, and the journal's tree. -/
structure Stage where
  source : String
  lints : Nat := 0
  repairs : Nat := 0
  writes : Nat := 0
  formats : Nat := 0
  tree : Tree := {}
deriving Repr

/-- The first stage: a source that can not be read counts as empty. -/
def Script.stage (script : Script) (tree : Tree) : Stage :=
  { source := match script.source with
      | .ok s => s
      | .error _ => ""
    tree := tree }

def unchanged (r : RepairRequest) : Repair := ⟨r.source, r.source⟩

def Script.repair (script : Script) (n : Nat) (r : RepairRequest) : Except String Repair :=
  match script.repairs[n]? with
  | some answer => answer
  | none => if script.echo then .ok (unchanged r) else .error "no scripted repair left"

def Script.write (script : Script) (n : Nat) : Except String Unit :=
  match script.writes[n]? with
  | some (some message) => .error message
  | _ => .ok ()

def Script.collaborators (script : Script) : Collaborators Stage String where
  path := script.path
  read s := (script.source, s)
  write text s :=
    let answer := script.write s.writes
    (answer, { s with
      source := match answer with
        | .ok () => text
        | .error _ => s.source
      writes := s.writes + 1 })
  lint _ s := ((script.lints[s.lints]?).getD script.lintAfter, { s with lints := s.lints + 1 })
  explain code _ s := ((script.explanations.lookup code).getD (.ok none), s)
  format _ s := (script.format, { s with formats := s.formats + 1 })
  repair r s := (script.repair s.repairs r, { s with repairs := s.repairs + 1 })
  report _ s := s
  record cycle s :=
    { s with
      tree := s.tree.keep [] script.iterations script.runId (script.duration cycle) cycle }

def fenced (source : String) : String := "```rust\n" ++ source ++ "```"

def handOver (source : String) : Repair := ⟨fenced source, source⟩

def ofReply (raw : String) : Except String Repair :=
  match Reply.source? raw with
  | some source => .ok ⟨raw, source⟩
  | none => .error "agent reply contained no source"

def mismatchedTypes : String :=
  "error[E0308]: mismatched types\n --> src/main.rs:3:5\n3 |     let x: i32 = \"a\";\n" ++
    "  |                  ^^^ expected i32\n"

def twoErrors : String :=
  "Checking demo v0.1.0 (/tmp/demo)\n" ++
  "error[E0308]: mismatched types\n --> src/main.rs:3:18\n  |\n" ++
  "3 |     let x: i32 = \"hello\";\n" ++
  "  |            ---   ^^^^^^^ expected `i32`, found `&str`\n" ++
  "  |            |\n  |            expected due to this\n\n" ++
  "error[E0425]: cannot find value `y` in this scope\n --> src/main.rs:4:20\n  |\n" ++
  "4 |     println!(\"\x7b\x7d\", y);\n  |                    ^ not found in this scope\n\n" ++
  "warning: unused variable: `z`\n --> src/main.rs:5:9\n  |\n5 |     let z = 1;\n" ++
  "  |         ^ help: if this is intentional, prefix it with an underscore: `_z`\n  |\n" ++
  "  = note: `#[warn(unused_variables)]` on by default\n\n" ++
  "Some errors have detailed explanations: E0308, E0425.\n" ++
  "For more information about an error, try `rustc --explain E0308`.\n" ++
  "warning: `demo` (bin \"demo\") generated 1 warning\n" ++
  "error: could not compile `demo` (bin \"demo\") due to 2 previous errors; 1 warning emitted\n"

def cleanReport : String :=
  "    Checking demo v0.1.0 (/tmp/demo)\n    Finished `dev` profile\n"

end LintRepair.Rehearsal
