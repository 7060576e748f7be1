import LintRepair.System.Refusal
import LintRepair.Text.ByteText

/-!
Processes as what they ask of the system, one request after the other, each followed by what the
process does with the answer. Names, words and paths are byte texts. A program is a process that is
still to be told what comes after it.
-/
namespace LintRepair.System

inductive Ending where
  | exited (status : Nat)
  | signaled (signal : Nat)
deriving DecidableEq, Repr

inductive Stream where
  | out
  | err
deriving DecidableEq, Repr

inductive Kind where
  | file (size : Nat)
  | directory
  | device
  | pipe
deriving DecidableEq, Repr

structure Access where
  readable : Bool := false
  writable : Bool := false
  create : Bool := false
  truncate : Bool := false
  fresh : Bool := false
  append : Bool := false
deriving DecidableEq, Repr

inductive Disposition where
  | default
  | ignored
  | caught
deriving DecidableEq, Repr

structure Channel where
  kind : Kind
  file? : Option (List String)
  position : Nat
  append : Bool
deriving DecidableEq, Repr

structure Awaited where
  child? : Option Nat := none
  impatient : Bool := false
  interruptible : Bool := false
deriving DecidableEq, Repr

inductive Process where
  | ended (status : Nat)
  /-- Time in microseconds that goes by. -/
  | pass (time : Nat) (next : Unit → Process)
  | hung
  /-- At most so many bytes, up to the end of a line if only a line is wanted; none at the end. -/
  | read (fd most : Nat) (line : Bool) (next : Except Refusal (List UInt8) → Process)
  | unread (fd count : Nat) (next : Unit → Process)
  | write (fd : Nat) (bytes : List UInt8) (next : Except Refusal Unit → Process)
  | openFile (path : String) (access : Access) (next : Except Refusal Nat → Process)
  | close (fd : Nat) (next : Unit → Process)
  | duplicate (fd goal : Nat) (next : Except Refusal Unit → Process)
  /-- One more descriptor, out of the way and closed where another program begins. -/
  | keep (fd : Nat) (next : Except Refusal Nat → Process)
  | pipe (next : Nat × Nat → Process)
  | channel (fd : Nat) (next : Except Refusal Channel → Process)
  | look (path : String) (next : Except Refusal Channel → Process)
  | names (path : String) (next : Except Refusal (List String) → Process)
  | enter (path : String) (next : Except Refusal Unit → Process)
  | whereabouts (next : String → Process)
  | makeDirectory (path : String) (next : Except Refusal Unit → Process)
  | removeFile (path : String) (next : Except Refusal Unit → Process)
  | removeDirectory (path : String) (next : Except Refusal Unit → Process)
  | rename (old new : String) (next : Except Refusal Unit → Process)
  | self (next : Nat × Nat → Process)
  | fork (child : Process) (next : Nat → Process)
  | become (next : Unit → Process)
  | await (a : Awaited) (next : Except Refusal (Option (Nat × Ending)) → Process)
  | signal (goal : Int) (signal : Nat) (next : Except Refusal Unit → Process)
  | dispose (signal : Nat) (d : Disposition) (next : Unit → Process)
  | signals (next : List Nat → Process)

def Program (α : Type) : Type := (α → Process) → Process

namespace Program

instance : Monad Program where
  pure a := fun next => next a
  bind p f := fun next => p fun a => f a next

def toProcess (p : Program Nat) : Process := p .ended

def exit {α : Type} (status : Nat) : Program α := fun _ => .ended status

def pass (time : Nat) : Program Unit := Process.pass time

def hang {α : Type} : Program α := fun _ => .hung

def read (fd most : Nat) : Program (Except Refusal (List UInt8)) := Process.read fd most false

def readLine (fd : Nat) : Program (Except Refusal (List UInt8)) := Process.read fd 65536 true

def unread (fd count : Nat) : Program Unit := Process.unread fd count

def write (fd : Nat) (bytes : List UInt8) : Program (Except Refusal Unit) := Process.write fd bytes

def say (fd : Nat) (s : String) : Program Unit := fun next =>
  .write fd (ByteText.toBytes s) fun _ => next ()

def openFile (path : String) (a : Access) : Program (Except Refusal Nat) := Process.openFile path a

def close (fd : Nat) : Program Unit := Process.close fd

def duplicate (fd goal : Nat) : Program (Except Refusal Unit) := Process.duplicate fd goal

def keep (fd : Nat) : Program (Except Refusal Nat) := Process.keep fd

def pipe : Program (Nat × Nat) := Process.pipe

def channel (fd : Nat) : Program (Except Refusal Channel) := Process.channel fd

def look (path : String) : Program (Except Refusal Channel) := Process.look path

def names (path : String) : Program (Except Refusal (List String)) := Process.names path

def enter (path : String) : Program (Except Refusal Unit) := Process.enter path

def whereabouts : Program String := Process.whereabouts

def makeDirectory (path : String) : Program (Except Refusal Unit) := Process.makeDirectory path

def removeFile (path : String) : Program (Except Refusal Unit) := Process.removeFile path

def removeDirectory (path : String) : Program (Except Refusal Unit) := Process.removeDirectory path

def rename (old new : String) : Program (Except Refusal Unit) := Process.rename old new

def self : Program (Nat × Nat) := Process.self

def fork (child : Process) : Program Nat := Process.fork child

def become : Program Unit := Process.become

/-- Waiting for a child to end; none stands for no child that has ended yet. -/
def await (a : Awaited) : Program (Except Refusal (Option (Nat × Ending))) := Process.await a

def signal (goal : Int) (sig : Nat) : Program (Except Refusal Unit) := Process.signal goal sig

def dispose (sig : Nat) (d : Disposition) : Program Unit := Process.dispose sig d

def signals : Program (List Nat) := Process.signals

end Program
end LintRepair.System
