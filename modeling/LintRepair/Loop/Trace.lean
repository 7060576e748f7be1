import LintRepair.Loop.Run

/-!
What a loop does, as a list of the calls it makes with their answers, the last one first. Watching
a loop changes none of its answers.
-/
namespace LintRepair

inductive Event (ε : Type) where
  | read (answer : Except ε String)
  | write (text : String) (answer : Except ε Unit)
  | lint (q : CommandRequest) (answer : Except ε LintOutput)
  | explain (code : String) (answer : Except ε (Option String))
  | format (answer : Except ε Unit)
  | repair (r : RepairRequest) (answer : Except ε Repair)
  | report (cycle : Cycle)
  | record (cycle : Cycle)

namespace Collaborators
variable {σ ε α : Type}

def noted (call : σ → α × σ) (event : α → Event ε) (s : σ × List (Event ε)) :
    α × σ × List (Event ε) :=
  match call s.1 with
  | (a, s₁) => (a, s₁, event a :: s.2)

def traced (c : Collaborators σ ε) : Collaborators (σ × List (Event ε)) ε where
  path := c.path
  read := noted c.read .read
  write text := noted (c.write text) (.write text)
  lint q := noted (c.lint q) (.lint q)
  explain code q := noted (c.explain code q) (.explain code)
  format q := noted (c.format q) .format
  repair r := noted (c.repair r) (.repair r)
  report cycle s := (c.report cycle s.1, .report cycle :: s.2)
  record cycle s := (c.record cycle s.1, .record cycle :: s.2)

def events (c : Collaborators σ ε) (plan : LoopPlan) (s : σ) : List (Event ε) :=
  (c.traced.run plan (s, [])).2.2.reverse

end Collaborators
end LintRepair
