import LintRepair.CommandLine.Options
import LintRepair.Diagnostic.Json
import LintRepair.Project.Init
import LintRepair.Project.Repair

/-!
A call of the program: its words are read, the task that they ask for is done, and the code that it
ends with says what became of it.
-/
namespace LintRepair.CommandLine

inductive Failure where
  | setup (e : SetupError)
  | config (e : ConfigError)
  | init (e : InitError)
  | loop (e : LoopError WorkError)
  | readFile (p : Path) (e : FileError)
  | readInput
deriving DecidableEq, Repr

def Failure.layers : Failure → List Layer
  | .setup e => e.layers
  | .config e => e.layers
  | .init e => e.layers
  | .loop e => e.layers WorkError.layers
  | .readFile p e => [.text ("read " ++ p.text), .text e.message]
  | .readInput => [.text "read stdin", .text FileError.notText.message]

def Failure.ofConfig : ConfigError → Failure
  | .setup e => .setup e
  | e => .config e

def Failure.ofInit : InitError → Failure
  | .config e => .ofConfig e
  | e => .init e

inductive Success where
  | done
  | stopped (s : Stop)
deriving DecidableEq, Repr

inductive Outcome where
  | success (s : Success)
  | failure (f : Failure)
  | unasked (u : Unasked)
deriving DecidableEq, Repr

def Outcome.code : Outcome → UInt32
  | .success .done => 0
  | .success (.stopped (.converged _)) => 0
  | .success (.stopped (.exceeded _ _)) => 3
  | .failure (.setup _) => 2
  | .failure _ => 1
  | .unasked .usage => 2
  | .unasked .help => 0
  | .unasked .version => 0

def initialConfig (maxIterations : UInt32) (lintTimeout agentTimeout : UInt64) (backend : Backend)
    (model : String) : Config :=
  { maxIterations := maxIterations
    lintTimeout := lintTimeout
    agentTimeout := agentTimeout
    agent := ⟨backend, model, 4096⟩ }

def init (u : Surroundings) (c : Config) (force : Bool) (w : World) :
    Except Failure Success × World :=
  match c.validate with
  | .error e => (.error (.setup e), w)
  | .ok () =>
    match initProject w.tree u.cwd ⟨"."⟩ c force with
    | (.error e, after) => (.error (.ofInit e), { w with tree := after })
    | (.ok places, after) =>
      (.ok .done, { w with tree := after }.print ("wrote " ++ places.config.text ++ "\n"))

def stopText (o : LoopOutcome) (runId : String) : String :=
  (match o.stop with
    | .converged iterations =>
      "converged after " ++ toString o.repairs.toNat ++ " repair(s) (" ++
        toString iterations.toNat ++ " lint pass(es))"
    | .exceeded maxIterations remaining =>
      "gave up after " ++ toString maxIterations.toNat ++ " repair(s) with " ++
        toString remaining ++ " diagnostic(s) remaining") ++
    "; run " ++ runId ++ "\n"

def run (u : Surroundings) (root : Path) (w : World) : Except Failure Success × World :=
  match Project.load u w.tree root with
  | .error e => (.error (.ofConfig e), w)
  | .ok p =>
    match p.repair u w with
    | (.error e, after) => (.error (.loop e), after)
    | (.ok o, after) => (.ok (.stopped o.stop), after.print (stopText o u.runId))

def givenText (u : Surroundings) (t : Tree) : Option Path → Except Failure String
  | some p =>
    match t.readText u.cwd p with
    | .error e => .error (.readFile p e)
    | .ok s => .ok s
  | none =>
    match strictText? u.input with
    | none => .error .readInput
    | some s => .ok s

def extract (u : Surroundings) (file : Option Path) (w : World) :
    Except Failure Success × World :=
  match givenText u w.tree file with
  | .error e => (.error e, w)
  | .ok s => (.ok .done, w.print (Diagnostic.listJsonText (Diagnostic.extract s) ++ "\n"))

def perform (u : Surroundings) (w : World) : Task → Except Failure Success × World
  | .init iterations lint agent backend model force =>
    init u (initialConfig iterations lint agent backend model) force w
  | .run project => run u project w
  | .extract file => extract u file w

def Unasked.answer : Unasked → String
  | .version => "fixloop 0.1.0\n"
  | .help | .usage =>
    "Usage: fixloop <COMMAND>\n\n" ++
    "  init --max-iterations <N> --lint-timeout-secs <N> --agent-timeout-secs <N>\n" ++
    "       --backend <anthropic|openai> --model <MODEL> [--force]\n" ++
    "  run [--project <DIR>]\n" ++
    "  extract [FILE]\n" ++
    "  help [COMMAND]\n"

/-- A call of the program with some words. The variables of the current directory's file are added
to the environment first. -/
def call (u : Surroundings) (words : List String) (w : World) : Outcome × World :=
  match read words with
  | .error .usage => (.unasked .usage, w)
  | .error answer => (.unasked answer, w.print answer.answer)
  | .ok task =>
    match perform (u.withEnvFile w.tree) w task with
    | (.error f, after) => (.failure f, after)
    | (.ok s, after) => (.success s, after)

def Outcome.complaint : Outcome → String
  | .success _ => ""
  | .failure f => Layer.chain f.layers ++ "\n"
  | .unasked .usage => Unasked.usage.answer
  | .unasked _ => ""

end LintRepair.CommandLine
