import LintRepair.Agent.Repair
import LintRepair.Command.Runner
import LintRepair.Config.File
import LintRepair.Loop.Journal
import LintRepair.Loop.Run
import LintRepair.Project.Plan
import LintRepair.Project.Source
import LintRepair.World

/-!
The loop in a project: its collaborators are the project's source file and commands and the service
that its configuration names. A project is opened before anything is started or changed.
-/
namespace LintRepair

structure Project where
  root : Path
  config : Config
  settings : Settings
deriving DecidableEq, Repr

def baseUrlVariable : String := "FIXLOOP_BASE_URL"

inductive WorkError where
  | source (e : SourceError)
  | tool (e : ToolError)
  | repair (e : RepairError)
deriving DecidableEq, Repr

def WorkError.layers : WorkError → List Layer
  | .source e => e.layers
  | .tool e => e.layers
  | .repair e => e.layers

/-- What a watcher is told about a cycle: the reply if a repair was made, else what was found. -/
def Cycle.told (c : Cycle) : String :=
  let iter := toString c.pass.iter.toNat
  match c.repair with
  | some r =>
    "--- agent response (iteration " ++ iter ++ ") ---\n" ++
      String.ofList (Text.trimEnd r.raw.toList) ++ "\n"
  | none =>
    "iteration " ++ iter ++ ": " ++ toString c.pass.diagnostics.length ++ " diagnostic(s)\n" ++
      if c.pass.diagnostics.isEmpty then "" else Diagnostic.renderAll c.pass.diagnostics ++ "\n"

namespace Project

/-- Opening the project at a root: its configuration is loaded, the key of its service is looked up,
and what the service is to be asked with is looked at. -/
def load (u : Surroundings) (t : Tree) (root : Path) : Except ConfigError Project :=
  match Config.load t u.cwd (Layout.of root).config with
  | .error e => .error e
  | .ok c =>
    match resolveKey c.agent.backend u.setting? with
    | .error e => .error (.setup e)
    | .ok key =>
      let settings := Settings.ofConfig c key (u.setting? baseUrlVariable)
      match settings.validate with
      | .error e => .error (.setup e)
      | .ok () => .ok ⟨root, c, settings⟩

def source (p : Project) : SourceFile := ⟨p.root, p.config.source⟩

def toolchain (p : Project) : Toolchain := .ofConfig p.config

def collaborators (p : Project) (u : Surroundings) : Collaborators World WorkError where
  path := p.source.description
  read w := ((p.source.read w.tree u.cwd).mapError .source, w)
  write text w :=
    match p.source.write w.tree u.cwd text with
    | (answer, after) => (answer.mapError .source, { w with tree := after })
  lint q w :=
    match w.start u p.toolchain.lint fun programs => p.toolchain.runLint programs u.cwd q with
    | (answer, after) => (answer.mapError .tool, after)
  explain code q w :=
    if p.toolchain.explain.isEmpty then (.ok none, w)
    else
      match w.start u (p.toolchain.explain ++ [code]) fun programs =>
        p.toolchain.runExplain programs u.cwd code q with
      | (answer, after) => (answer.mapError .tool, after)
  format q w :=
    match w.start u p.toolchain.format fun programs => p.toolchain.runFormat programs u.cwd q with
    | (answer, after) => (answer.mapError .tool, after)
  repair r w :=
    match p.settings.ask w.network r with
    | (answer, after) => (answer.mapError .repair, { w with network := after })
  report c w := w.print c.told
  record c w :=
    { w with tree := w.tree.keep u.cwd (p.config.journal? p.root) u.runId (u.duration c) c }

def repair (p : Project) (u : Surroundings) (w : World) :
    Except (LoopError WorkError) LoopOutcome × World :=
  (p.collaborators u).run (.ofConfig p.root p.config) w

end Project
end LintRepair
