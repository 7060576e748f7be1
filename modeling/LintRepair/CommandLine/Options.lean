import LintRepair.Agent.Backend
import LintRepair.Files.Path

/-!
The words of the command line. A command's options are read one after the other; the value of an
option is looked at when the next option comes, so the first fault in that order decides, and a call
for help before it is answered.
-/
namespace LintRepair.CommandLine

inductive Unasked where
  | usage
  | help
  | version
deriving DecidableEq, Repr

/-- What a command understands: options with values, flags with a letter, and how many words may
stand alone. -/
structure Grammar where
  valued : List String
  flags : List (String × Char)
  positional : Option String
  accepts : String → String → Bool

structure Reading where
  given : List (String × String) := []
  /-- An option with its value, if that was read, that nothing was looked up for yet. -/
  pending : Option (String × Option String) := none
  trailing : Bool := false
  positionals : Nat := 0

namespace Reading

/-- Taking an option or a flag in: none may be given twice. -/
def take (g : Grammar) (r : Reading) (name value : String) : Except Unasked Reading :=
  if (r.given.lookup name).isSome || !g.accepts name value then .error .usage
  else .ok { r with given := r.given ++ [(name, value)] }

def settle (g : Grammar) (r : Reading) : Except Unasked Reading :=
  match r.pending with
  | none => .ok r
  | some (_, none) => .error .usage
  | some (name, some value) => { r with pending := none }.take g name value

def long (g : Grammar) (r : Reading) (word : List Char) : Except Unasked Reading :=
  let name := String.ofList (word.takeWhile (· ≠ '='))
  match word.dropWhile (· ≠ '=') with
  | [] =>
    if name = "help" then
      match r.settle g with
      | .ok _ => .error .help
      | .error e => .error e
    else if g.valued.contains name then
      (r.settle g).map fun r => { r with pending := some (name, none) }
    else if (g.flags.lookup name).isSome then (r.settle g).bind fun r => r.take g name ""
    else .error .usage
  | _ :: value =>
    if g.valued.contains name then (r.settle g).bind fun r => r.take g name (String.ofList value)
    else .error .usage

def short (g : Grammar) (r : Reading) : List Char → Except Unasked Reading
  | [] => .ok r
  | c :: cs =>
    if c = 'h' then
      match r.settle g with
      | .ok _ => .error .help
      | .error e => .error e
    else
      match g.flags.find? (·.2 = c) with
      | none => .error .usage
      | some (name, _) => ((r.settle g).bind fun r => r.take g name "").bind fun r => short g r cs

def alone (g : Grammar) (r : Reading) (word : String) : Except Unasked Reading :=
  match r.pending with
  | some (name, none) =>
    if r.trailing then .error .usage else .ok { r with pending := some (name, some word) }
  | _ =>
    match g.positional with
    | none => .error .usage
    | some name =>
      if r.positionals = 0 then
        (r.settle g).map fun r =>
          { r with pending := some (name, some word), positionals := 1 }
      else .error .usage

def run (g : Grammar) (r : Reading) : List String → Except Unasked Reading
  | [] => r.settle g
  | word :: more =>
    if r.trailing then (r.alone g word).bind fun r => run g r more
    else
      match word.toList with
      | ['-', '-'] => run g { r with trailing := true } more
      | '-' :: '-' :: name => (r.long g name).bind fun r => run g r more
      | '-' :: c :: cs => (r.short g (c :: cs)).bind fun r => run g r more
      | _ => (r.alone g word).bind fun r => run g r more

end Reading

def digits? (cs : List Char) : Option Nat :=
  if cs.isEmpty || !cs.all Char.isDigit then none
  else some (cs.foldl (fun n c => n * 10 + (c.toNat - 48)) 0)

def unsigned? (s : String) : Option Nat :=
  match s.toList with
  | '+' :: cs => digits? cs
  | cs => digits? cs

def word32? (s : String) : Option UInt32 :=
  let n := match s.toList with
    | '-' :: cs => (digits? cs).filter (· = 0)
    | _ => unsigned? s
  (n.filter (· < UInt32.size)).map UInt32.ofNat

def word64? (s : String) : Option UInt64 :=
  ((unsigned? s).filter (· < UInt64.size)).map UInt64.ofNat

inductive Task where
  | init (maxIterations : UInt32) (lintTimeout agentTimeout : UInt64) (backend : Backend)
      (model : String) (force : Bool)
  | run (project : Path)
  | extract (file : Option Path)
deriving DecidableEq, Repr

def initGrammar : Grammar where
  valued := ["max-iterations", "lint-timeout-secs", "agent-timeout-secs", "backend", "model"]
  flags := [("force", 'f')]
  positional := none
  accepts name value :=
    if name = "max-iterations" then (word32? value).isSome
    else if name = "lint-timeout-secs" || name = "agent-timeout-secs" then (word64? value).isSome
    else if name = "backend" then (Backend.ofName? value).isSome
    else true

def readInit (words : List String) : Except Unasked Task :=
  (Reading.run initGrammar {} words).bind fun r =>
    match (r.given.lookup "max-iterations").bind word32?,
      (r.given.lookup "lint-timeout-secs").bind word64?,
      (r.given.lookup "agent-timeout-secs").bind word64?,
      (r.given.lookup "backend").bind Backend.ofName?, r.given.lookup "model" with
    | some iterations, some lint, some agent, some backend, some model =>
      .ok (.init iterations lint agent backend model (r.given.lookup "force").isSome)
    | _, _, _, _, _ => .error .usage

def runGrammar : Grammar where
  valued := ["project"]
  flags := []
  positional := none
  accepts _ value := value ≠ ""

def readRun (words : List String) : Except Unasked Task :=
  (Reading.run runGrammar {} words).map fun r => .run ⟨(r.given.lookup "project").getD "."⟩

def extractGrammar : Grammar where
  valued := []
  flags := []
  positional := some "file"
  accepts _ value := value ≠ ""

def readExtract (words : List String) : Except Unasked Task :=
  (Reading.run extractGrammar {} words).map fun r =>
    .extract ((r.given.lookup "file").map Path.mk)

def commands : List String := ["init", "run", "extract", "help"]

def read : List String → Except Unasked Task
  | "init" :: words => readInit words
  | "run" :: words => readRun words
  | "extract" :: words => readExtract words
  | "help" :: words =>
    match words with
    | [] => .error .help
    | [word] => .error (if commands.contains word then .help else .usage)
    | _ => .error .usage
  | word :: _ =>
    match word.toList with
    | '-' :: 'h' :: _ => .error .help
    | '-' :: 'V' :: _ => .error .version
    | _ =>
      if word = "--help" then .error .help
      else if word = "--version" then .error .version
      else .error .usage
  | [] => .error .usage

end LintRepair.CommandLine
