import LintRepair.Files.Tree
import LintRepair.System.Process

/-!
A system that runs processes side by side on a file tree, with a clock of its own. Of the processes
that can go on, the one whose time comes first takes the next step, so what a run does is settled
by the processes alone. Work takes little time, waiting takes what is asked for.
-/
namespace LintRepair.System

inductive Goal where
  | stream (s : Stream)
  | pipeIn (pipe : Nat)
  | pipeOut (pipe : Nat)
  | file (key : List String) (opening : Nat)
  | directory (key : List String)
  | null
  | zero
  | full
deriving DecidableEq, Repr

structure Descriptor where
  goal : Goal
  readable : Bool := true
  writable : Bool := true
  append : Bool := false
  hidden : Bool := false
deriving DecidableEq, Repr

structure Task where
  number : Nat
  parent : Nat
  /-- When it takes its next step at the earliest, in microseconds. -/
  time : Nat := 0
  cwd : List String := []
  descriptors : List (Nat × Descriptor) := []
  dispositions : List (Nat × Disposition) := []
  pending : List Nat := []
  process : Process

/-- What waits in a pipe to be read. What was written last is at the start of `late`. -/
structure Pipe where
  early : List UInt8 := []
  late : List (List UInt8) := []
  size : Nat := 0

structure Reach where
  key : List String
  position : Nat := 0
  ahead? : Option (List UInt8) := none

structure Kernel where
  tree : Tree := {}
  tasks : List Task := []
  /-- The processes that have ended and that no parent has asked for yet, with their parents. -/
  endings : List (Nat × Nat × Ending) := []
  pipes : List (Nat × Pipe) := []
  reaches : List (Nat × Reach) := []
  output : List (Stream × List UInt8) := []
  printedSize : Nat := 0
  now : Nat := 0
  fresh : Nat := 0
  /-- The number of the first process, which is also that of all processes together. -/
  first : Nat := 0

def pipeSize : Nat := 65536

def forkTime : Nat := 150

def startTime : Nat := 80

def becomeTime : Nat := 600

namespace Task

def descriptor? (t : Task) (fd : Nat) : Option Descriptor := t.descriptors.lookup fd

def withDescriptor (t : Task) (fd : Nat) (d : Descriptor) : Task :=
  { t with descriptors := (fd, d) :: t.descriptors.filter (·.1 ≠ fd) }

def withoutDescriptor (t : Task) (fd : Nat) : Task :=
  { t with descriptors := t.descriptors.filter (·.1 ≠ fd) }

def freeDescriptor (t : Task) (least : Nat) : Nat :=
  ((List.range (t.descriptors.length + 1)).map (· + least)).find?
    (fun n => (t.descriptor? n).isNone) |>.getD least

def disposition (t : Task) (sig : Nat) : Disposition :=
  if sig = 9 || sig = 19 then .default else (t.dispositions.lookup sig).getD .default

def leadsTo (t : Task) (p : Goal → Bool) : Bool := t.descriptors.any fun d => p d.2.goal

end Task

def cutLine (bytes : List UInt8) : List UInt8 × List UInt8 :=
  let line := bytes.takeWhile (· ≠ 10)
  let rest := bytes.drop line.length
  (line ++ rest.take 1, rest.drop 1)

def portion (most : Nat) (line : Bool) (bytes : List UInt8) : List UInt8 × List UInt8 :=
  if line then cutLine bytes else bytes.splitAt most

def Pipe.take (p : Pipe) (most : Nat) (line : Bool) : List UInt8 × Pipe :=
  let (bytes, late) := if p.early.isEmpty then (p.late.reverse.flatten, []) else (p.early, p.late)
  let (part, rest) := portion most line bytes
  (part, ⟨rest, late, p.size - part.length⟩)

namespace Kernel

def resolve (k : Kernel) (base : List String) (path : String) : Except Refusal Tree.Target :=
  (k.tree.target base ⟨ByteText.decode path⟩).mapError .file

def device? : List String → Option Goal
  | ["dev", "null"] => some .null
  | ["dev", "zero"] => some .zero
  | ["dev", "full"] => some .full
  | _ => none

def ownDescriptor? (path : String) : Option Nat :=
  if path = "/dev/stdin" then some 0
  else if path = "/dev/stdout" then some 1
  else if path = "/dev/stderr" then some 2
  else if path.startsWith "/dev/fd/" then (path.drop 8).toNat?
  else none

def kindOf (k : Kernel) : Goal → Kind
  | .stream _ | .pipeIn _ | .pipeOut _ => .pipe
  | .file key _ =>
    match k.tree.get? key with
    | some (.file bytes) => .file bytes.length
    | _ => .file 0
  | .directory _ => .directory
  | .null | .zero | .full => .device

def lookAt (k : Kernel) (place : Tree.Target) : Except Refusal Channel :=
  match device? place.key with
  | some goal => .ok ⟨k.kindOf goal, none, 0, false⟩
  | none =>
    match k.tree.at? place with
    | .error e => .error (.file e)
    | .ok .directory => .ok ⟨.directory, some place.key, 0, false⟩
    | .ok (.file bytes) => .ok ⟨.file bytes.length, some place.key, 0, false⟩

def look (k : Kernel) (base : List String) (path : String) : Except Refusal Channel :=
  (k.resolve base path).bind k.lookAt

def position (k : Kernel) (opening : Nat) : Nat :=
  ((k.reaches.lookup opening).map (·.position)).getD 0

def withReach (k : Kernel) (opening : Nat) (r : Reach) : Kernel :=
  { k with reaches := (opening, r) :: k.reaches.filter (·.1 ≠ opening) }

def withContent (k : Kernel) (key : List String) (bytes : List UInt8) : Kernel :=
  { k with
    tree := k.tree.set key (.file bytes)
    reaches := k.reaches.map fun r =>
      if r.2.key = key then (r.1, { r.2 with ahead? := none }) else r }

def ahead (k : Kernel) (opening : Nat) (bytes : List UInt8) : List UInt8 :=
  match k.reaches.lookup opening with
  | some r => r.ahead?.getD (bytes.drop r.position)
  | none => bytes

def put (k : Kernel) (t : Task) : Kernel :=
  { k with tasks := k.tasks.map fun u => if u.number = t.number then t else u }

/-- A task goes on. Every answer takes some time, so that no task asks on and on for nothing. -/
def resume (k : Kernel) (t : Task) (p : Process) : Kernel :=
  k.put { t with process := p, time := k.now + 1 }

def finish (k : Kernel) (t : Task) (e : Ending) : Kernel :=
  { k with
    tasks := k.tasks.filter (·.number ≠ t.number)
    endings := k.endings ++ [(t.parent, t.number, e)] }

def hasReader (k : Kernel) (id : Nat) : Bool := k.tasks.any fun t => t.leadsTo (· = .pipeIn id)

def hasWriter (k : Kernel) (id : Nat) : Bool := k.tasks.any fun t => t.leadsTo (· = .pipeOut id)

def pipeAt (k : Kernel) (id : Nat) : Pipe := (k.pipes.lookup id).getD {}

def withPipe (k : Kernel) (id : Nat) (p : Pipe) : Kernel :=
  { k with pipes := (id, p) :: k.pipes.filter (·.1 ≠ id) }

def ending? (k : Kernel) (t : Task) (a : Awaited) : Option (Nat × Nat × Ending) :=
  k.endings.find? fun e => e.1 = t.number && a.child?.all (· = e.2.1)

def hasChild (k : Kernel) (t : Task) (a : Awaited) : Bool :=
  k.tasks.any fun u => u.parent = t.number && a.child?.all (· = u.number)

def canGoOn (k : Kernel) (t : Task) : Bool :=
  match t.process with
  | .hung => false
  | .read fd .. =>
    match t.descriptor? fd with
    | some { goal := .pipeIn id, .. } => (k.pipeAt id).size > 0 || !k.hasWriter id
    | _ => true
  | .write fd bytes _ =>
    match t.descriptor? fd with
    | some { goal := .pipeOut id, .. } =>
      let size := (k.pipeAt id).size
      size = 0 || size + bytes.length ≤ pipeSize || !k.hasReader id
    | _ => true
  | .await a _ =>
    a.impatient || (k.ending? t a).isSome || !k.hasChild t a ||
      (a.interruptible && !t.pending.isEmpty)
  | _ => true

def sooner (k : Kernel) (best : Option (Nat × Task)) (t : Task) : Option (Nat × Task) :=
  if k.canGoOn t then
    let time := max t.time k.now
    match best with
    | some (first, u) => if time < first then some (time, t) else some (first, u)
    | none => some (time, t)
  else best

def turn? (k : Kernel) : Option (Nat × Task) := k.tasks.foldl k.sooner none

def read (k : Kernel) (t : Task) (fd most : Nat) (line : Bool) :
    Except Refusal (List UInt8) × Kernel :=
  match t.descriptor? fd with
  | none => (.error .badDescriptor, k)
  | some d =>
    if !d.readable then (.error .badDescriptor, k)
    else
      match d.goal with
      | .null => (.ok [], k)
      | .zero | .full => (.ok (List.replicate most 0), k)
      | .stream _ | .pipeOut _ => (.error .badDescriptor, k)
      | .directory _ => (.error (.file .isDirectory), k)
      | .file key opening =>
        match k.tree.get? key with
        | some (.file bytes) =>
          let (part, rest) := portion most line (k.ahead opening bytes)
          (.ok part,
            k.withReach opening ⟨key, k.position opening + part.length, some rest⟩)
        | _ => (.ok [], k)
      | .pipeIn id =>
        let (part, p) := (k.pipeAt id).take most line
        (.ok part, k.withPipe id p)

def overwrite (bytes : List UInt8) (position : Nat) (new : List UInt8) : List UInt8 :=
  let size := bytes.length
  if position ≥ size then bytes ++ (List.replicate (position - size) 0 ++ new)
  else bytes.take position ++ (new ++ bytes.drop (position + new.length))

def write (k : Kernel) (t : Task) (fd : Nat) (bytes : List UInt8) : Except Refusal Unit × Kernel :=
  match t.descriptor? fd with
  | none => (.error .badDescriptor, k)
  | some d =>
    if !d.writable then (.error .badDescriptor, k)
    else
      match d.goal with
      | .null | .zero => (.ok (), k)
      | .full => (if bytes.isEmpty then .ok () else .error (.file .noSpace), k)
      | .pipeIn _ | .directory _ => (.error .badDescriptor, k)
      | .stream s =>
        (.ok (), if bytes.isEmpty then k else
          { k with
            output := (s, bytes) :: k.output
            printedSize := k.printedSize + bytes.length })
      | .file key opening =>
        match k.tree.get? key with
        | some (.file old) =>
          let position := if d.append then old.length else k.position opening
          (.ok (), (k.withContent key (overwrite old position bytes)).withReach opening
            ⟨key, position + bytes.length, none⟩)
        | _ => (.ok (), k)
      | .pipeOut id =>
        let p := k.pipeAt id
        (.ok (), if bytes.isEmpty then k else
          k.withPipe id { p with late := bytes :: p.late, size := p.size + bytes.length })

def opened (goal : Goal) (a : Access) : Descriptor :=
  { goal := goal, readable := a.readable, writable := a.writable, append := a.append }

def openAt (k : Kernel) (place : Tree.Target) (a : Access) :
    Except Refusal (Descriptor × Kernel) :=
  match device? place.key, k.tree.get? place.key with
  | some goal, _ => .ok (opened goal a, k)
  | none, some .directory =>
    if a.writable then .error (.file .isDirectory)
    else .ok (opened (.directory place.key) a, k)
  | none, some (.file _) =>
    if place.asDirectory then .error (.file .notDirectory)
    else if a.fresh then .error (.file .alreadyExists)
    else
      let k := if a.truncate then k.withContent place.key [] else k
      .ok (opened (.file place.key k.fresh) a, { k with fresh := k.fresh + 1 })
  | none, none =>
    if !a.create then .error (.file .notFound)
    else
      match k.tree.putAt place [] with
      | .error e => .error (.file e)
      | .ok t =>
        .ok (opened (.file place.key k.fresh) a, { k with tree := t, fresh := k.fresh + 1 })

def openPath (k : Kernel) (t : Task) (path : String) (a : Access) :
    Except Refusal (Descriptor × Kernel) :=
  match ownDescriptor? path with
  | some fd =>
    match t.descriptor? fd with
    | some d => .ok ({ d with hidden := false }, k)
    | none => .error (.file .notFound)
  | none =>
    if path = "/dev/tty" then .error .noDevice
    else (k.resolve t.cwd path).bind fun place => k.openAt place a

def directoryAt (k : Kernel) (base : List String) (path : String) :
    Except Refusal (List String) :=
  (k.resolve base path).bind fun place =>
    match k.tree.get? place.key with
    | some .directory => .ok place.key
    | some (.file _) => .error (.file .notDirectory)
    | none => .error (.file .notFound)

def makeDirectory (k : Kernel) (base : List String) (path : String) : Except Refusal Kernel :=
  (k.resolve base path).bind fun place =>
    match k.tree.get? place.key with
    | some _ => .error (.file .alreadyExists)
    | none => .ok { k with tree := k.tree.set place.key .directory }

def removeFile (k : Kernel) (base : List String) (path : String) : Except Refusal Kernel :=
  (k.resolve base path).bind fun place =>
    match k.tree.get? place.key with
    | none => .error (.file .notFound)
    | some .directory => .error (.file .isDirectory)
    | some (.file _) =>
      if place.asDirectory then .error (.file .notDirectory)
      else .ok { k with tree := k.tree.erase place.key }

def removeDirectory (k : Kernel) (base : List String) (path : String) : Except Refusal Kernel :=
  (k.resolve base path).bind fun place =>
    match k.tree.get? place.key with
    | none => .error (.file .notFound)
    | some (.file _) => .error (.file .notDirectory)
    | some .directory =>
      if !(k.tree.namesIn place.key).isEmpty || place.key.isEmpty then .error .notEmpty
      else .ok { k with tree := k.tree.erase place.key }

def moved (t : Tree) (old new : List String) : Tree :=
  ⟨(t.eraseAll new).entries.map fun e =>
    if old.isPrefixOf e.1 then (new ++ e.1.drop old.length, e.2) else e⟩

def rename (k : Kernel) (base : List String) (old new : String) : Except Refusal Kernel :=
  (k.resolve base old).bind fun a => (k.resolve base new).bind fun b =>
    let done : Except Refusal Kernel := .ok { k with tree := moved k.tree a.key b.key }
    if a.key = b.key then .ok k
    else if a.key.isPrefixOf b.key then .error .invalid
    else
      match k.tree.get? a.key, k.tree.get? b.key with
      | none, _ => .error (.file .notFound)
      | some (.file _), some .directory => .error (.file .isDirectory)
      | some (.file _), _ =>
        if a.asDirectory || b.asDirectory then .error (.file .notDirectory) else done
      | some .directory, some (.file _) => .error (.file .notDirectory)
      | some .directory, some .directory =>
        if (k.tree.namesIn b.key).isEmpty then done else .error .notEmpty
      | some .directory, none => done

/-- The signals that change nothing unless they are caught. -/
def harmless : List Nat := [17, 18, 23, 28]

def stopping : List Nat := [19, 20, 21, 22]

def deliver (k : Kernel) (sig number : Nat) : Kernel :=
  match k.tasks.find? (·.number = number) with
  | none => k
  | some t =>
    if sig = 0 then k
    else
      match t.disposition sig with
      | .ignored => k
      | .caught =>
        if t.pending.contains sig then k else k.put { t with pending := t.pending ++ [sig] }
      | .default =>
        if harmless.contains sig then k
        else if stopping.contains sig then k.put { t with process := .hung }
        else k.finish t (.signaled sig)

def reached (k : Kernel) (goal : Int) : List Nat :=
  if goal > 0 then (k.tasks.filter fun t => (t.number : Int) = goal).map (·.number)
  else if goal = 0 || goal = -1 || goal = -(k.first : Int) then k.tasks.map (·.number)
  else []

/-- A signal may be sent: a process that has ended counts until its parent has asked for it. -/
def isThere (k : Kernel) (goal : Int) : Bool :=
  !(k.reached goal).isEmpty || k.endings.any fun e => (e.2.1 : Int) = goal

def again? (k : Kernel) (t : Task) : Option Task := k.tasks.find? (·.number = t.number)

def pathText (key : List String) : String := "/" ++ "/".intercalate key

def answer (k : Kernel) (t : Task) (next : Except Refusal Unit → Process) :
    Except Refusal Kernel → Kernel
  | .ok k => k.resume t (next (.ok ()))
  | .error e => k.resume t (next (.error e))

def step (k : Kernel) (t : Task) : Kernel :=
  match t.process with
  | .ended status => k.finish t (.exited (status % 256))
  | .hung => k
  | .pass time next => k.put { t with process := next (), time := k.now + time }
  | .read fd most line next =>
    let (r, k) := k.read t fd most line
    k.resume t (next r)
  | .unread fd count next =>
    match t.descriptor? fd with
    | some { goal := .file key opening, .. } =>
      (k.withReach opening ⟨key, k.position opening - count, none⟩).resume t (next ())
    | _ => k.resume t (next ())
  | .write fd bytes next =>
    match t.descriptor? fd with
    | some { goal := .pipeOut id, .. } =>
      if k.hasReader id then
        let (r, k) := k.write t fd bytes
        k.resume t (next r)
      else
        let k := k.deliver 13 t.number
        match k.again? t with
        | some t => k.resume t (next (.error .brokenPipe))
        | none => k
    | _ =>
      let (r, k) := k.write t fd bytes
      k.resume t (next r)
  | .openFile path a next =>
    match k.openPath t path a with
    | .error e => k.resume t (next (.error e))
    | .ok (d, k) =>
      let fd := t.freeDescriptor 0
      k.resume (t.withDescriptor fd d) (next (.ok fd))
  | .close fd next => k.resume (t.withoutDescriptor fd) (next ())
  | .duplicate fd goal next =>
    match t.descriptor? fd with
    | none => k.resume t (next (.error .badDescriptor))
    | some d => k.resume (t.withDescriptor goal { d with hidden := false }) (next (.ok ()))
  | .keep fd next =>
    match t.descriptor? fd with
    | none => k.resume t (next (.error .badDescriptor))
    | some d =>
      let free := t.freeDescriptor 10
      k.resume (t.withDescriptor free { d with hidden := true }) (next (.ok free))
  | .pipe next =>
    let input := t.freeDescriptor 0
    let t := t.withDescriptor input { goal := .pipeIn k.fresh, writable := false }
    let output := t.freeDescriptor 0
    let t := t.withDescriptor output { goal := .pipeOut k.fresh, readable := false }
    { k with fresh := k.fresh + 1 }.resume t (next (input, output))
  | .channel fd next =>
    match t.descriptor? fd with
    | none => k.resume t (next (.error .badDescriptor))
    | some d =>
      let (file?, position) := match d.goal with
        | .file key opening => (some key, k.position opening)
        | .directory key => (some key, 0)
        | _ => (none, 0)
      k.resume t (next (.ok ⟨k.kindOf d.goal, file?, position, d.append⟩))
  | .look path next => k.resume t (next (k.look t.cwd path))
  | .names path next =>
    match k.directoryAt t.cwd path with
    | .error e => k.resume t (next (.error e))
    | .ok key => k.resume t (next (.ok ((k.tree.namesIn key).map ByteText.encode)))
  | .enter path next =>
    match k.directoryAt t.cwd path with
    | .error e => k.resume t (next (.error e))
    | .ok key => k.resume { t with cwd := key } (next (.ok ()))
  | .whereabouts next => k.resume t (next (ByteText.encode (pathText t.cwd)))
  | .makeDirectory path next => k.answer t next (k.makeDirectory t.cwd path)
  | .removeFile path next => k.answer t next (k.removeFile t.cwd path)
  | .removeDirectory path next => k.answer t next (k.removeDirectory t.cwd path)
  | .rename old new next => k.answer t next (k.rename t.cwd old new)
  | .self next => k.resume t (next (t.number, t.parent))
  | .fork child next =>
    let number := k.fresh
    let k := { k with
      fresh := k.fresh + 1
      tasks := k.tasks ++ [{ t with
        number := number
        parent := t.number
        time := k.now + forkTime
        pending := []
        process := child }] }
    k.put { t with process := next number, time := k.now + startTime }
  | .become next =>
    k.put { t with
      descriptors := t.descriptors.filter (!·.2.hidden)
      dispositions := t.dispositions.filter fun d => d.2 = .ignored
      process := next ()
      time := k.now + becomeTime }
  | .await a next =>
    match k.ending? t a with
    | some e =>
      { k with endings := k.endings.filter (· ≠ e) }.resume t (next (.ok (some e.2)))
    | none =>
      if !k.hasChild t a then k.resume t (next (.error .noChild))
      else if a.impatient then k.resume t (next (.ok none))
      else k.resume t (next (.error .interrupted))
  | .signal goal sig next =>
    if !k.isThere goal then k.resume t (next (.error .noProcess))
    else
      let k := (k.reached goal).foldl (fun k n => k.deliver sig n) k
      match k.again? t with
      | some t => k.resume t (next (.ok ()))
      | none => k
  | .dispose sig d next =>
    k.resume { t with dispositions := (sig, d) :: t.dispositions.filter (·.1 ≠ sig) } (next ())
  | .signals next => k.resume { t with pending := [] } (next t.pending)

def canPrint (k : Kernel) : Bool :=
  k.tasks.any fun t => t.leadsTo fun g => g = .stream .out || g = .stream .err

def isAlive (k : Kernel) (number : Nat) : Bool := k.tasks.any (·.number = number)

/-- How much is printed at most; who prints more counts as one that never ends. -/
def printLimit : Nat := 20000000

/-- Running all tasks up to where the first of them has ended and none can print any more, or up to
the deadline. `fuel` bounds the steps; a run that has used it up counts as one without end. The
answer tells whether the first task was still at work. -/
def run (deadline : Option Nat) : Nat → Kernel → Bool × Kernel
  | 0, k => (k.isAlive k.first, k)
  | fuel + 1, k =>
    match k.turn? with
    | none => (k.isAlive k.first, k)
    | some (time, t) =>
      if k.isAlive k.first then
        if deadline.any (· ≤ time) || k.printedSize > printLimit then (true, k)
        else run deadline fuel ({ k with now := time }.step t)
      else if k.canPrint then run deadline fuel ({ k with now := time }.step t)
      else (false, k)

def firstEnding? (k : Kernel) : Option Ending :=
  (k.endings.find? (·.2.1 = k.first)).map (·.2.2)

def printed (k : Kernel) (s : Stream) : List UInt8 :=
  k.output.foldl (fun bytes piece => if piece.1 = s then piece.2 ++ bytes else bytes) []

end Kernel
end LintRepair.System
