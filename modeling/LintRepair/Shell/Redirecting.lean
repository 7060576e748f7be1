import LintRepair.Shell.Filling

/-!
Redirections: the words in them are filled in before the first file is opened, and what descriptors
led to is kept so that it can be brought back.
-/
namespace LintRepair.Shell
open LintRepair.System

inductive Aim where
  | file (o : Opening) (name : String)
  | same (other : Option Nat)
  | document (number : Nat) (isFilled : Bool)
deriving DecidableEq, Repr

/-- A descriptor that was led elsewhere, and the one where it is kept if it led anywhere before. -/
structure Kept where
  fd : Nat
  place? : Option Nat
deriving DecidableEq, Repr

def openReason (creates : Bool) (e : Refusal) : String :=
  match e with
  | .file .notFound | .file .notDirectory =>
    if creates then "Directory nonexistent" else "No such file"
  | e => e.reason

def documentSize : Nat := 4096

namespace Action

def aim (host : Host) : Redirection → Action (Nat × Aim)
  | .file fd o name => do return (fd, .file o (← fillText host { seesTilde := true } name))
  | .same fd other => return (fd, .same other)
  | .document fd n isFilled => return (fd, .document n isFilled)
  | .named fd w => do
    match (← fillText host { seesTilde := true } w).toList with
    | ['-'] => return (fd, .same none)
    | [c] =>
      if c.isDigit then return (fd, .same (some (c.toNat - 48)))
      else
        modify fun s => { s with line := s.lineRead }
        fail "Syntax error: Bad fd number"
    | _ => do
      modify fun s => { s with line := s.lineRead }
      fail "Syntax error: Bad fd number"

def openNamed (name : String) (a : Access) : Action Nat := do
  match ← ask (Program.openFile name a) with
  | .ok fd => return fd
  | .error e =>
    fail ("cannot " ++ (if a.create then "create " else "open ") ++ name ++ ": " ++
      openReason a.create e)

def openFresh (name : String) : Action Nat := do
  match ← ask (Program.look name) with
  | .error _ => openNamed name { writable := true, create := true, fresh := true }
  | .ok c =>
    match c.kind with
    | .file _ => fail ("cannot create " ++ name ++ ": File exists")
    | _ => openNamed name { writable := true }

def openDocument (host : Host) (n : Nat) (isFilled : Bool) : Action Nat := do
  let (input, output) ← ask Program.pipe
  let w := ((← get).documents.lookup n).getD []
  let text ← if isFilled then fillText host { isQuoted := true } w else pure (literal w)
  let bytes := ByteText.toBytes text
  if bytes.length ≤ documentSize then
    let _ ← ask (Program.write output bytes)
  else
    let _ ← start host false false (do
      ask (Program.close input)
      let _ ← ask (Program.write output bytes)
      return 0)
  ask (Program.close output)
  return input

/-- The descriptor that an aim gives, none inside for nowhere; none at all if there is nothing to
do. -/
def openAim (host : Host) (fd : Nat) : Aim → Action (Option (Option Nat))
  | .same other => return if other = some fd then none else some other
  | .document n isFilled => do return some (some (← openDocument host n isFilled))
  | .file o name => do
    let new ← match o with
      | .read => openNamed name { readable := true }
      | .readAndWrite => openNamed name { readable := true, writable := true, create := true }
      | .append => openNamed name { writable := true, create := true, append := true }
      | .overwrite => openNamed name { writable := true, create := true, truncate := true }
      | .write =>
        if (← get).has 'C' then openFresh name
        else openNamed name { writable := true, create := true, truncate := true }
    return some (some new)

def keepFor (fd : Nat) (new : Option Nat) (kept : List Kept) : Action (List Kept) := do
  if kept.any (·.fd = fd) then return kept
  else if new = some fd then return ⟨fd, none⟩ :: kept
  else
    match ← ask (Program.keep fd) with
    | .ok place =>
      ask (Program.close fd)
      return ⟨fd, some place⟩ :: kept
    | .error _ => return if new.isNone then kept else ⟨fd, none⟩ :: kept

def lead (fd : Nat) (isSame : Bool) (new : Option Nat) : Action Unit := do
  match new with
  | none => ask (Program.close fd)
  | some n =>
    if n = fd then pure ()
    else
      match ← ask (Program.duplicate n fd) with
      | .ok () => if isSame then pure () else ask (Program.close n)
      | .error e => fail (toString n ++ ": " ++ e.reason)

/-- Leading descriptors to their aims, one after the other. What they led to before is kept if so
asked; what is kept already comes in, and the answer tells also whether all went well. -/
def redirect (host : Host) (keeps : Bool) : List (Nat × Aim) → List Kept →
    Action (List Kept × Bool)
  | [], kept => return (kept, true)
  | (fd, a) :: more, kept => do
    match ← attempt (openAim host fd a) with
    | .error .failed => return (kept, false)
    | .error e => throw e
    | .ok none => redirect host keeps more kept
    | .ok (some new) =>
      let kept ← if keeps then keepFor fd new kept else pure kept
      let isSame := match a with
        | .same _ => true
        | _ => false
      match ← attempt (lead fd isSame new) with
      | .error .failed => return (kept, false)
      | .error e => throw e
      | .ok () => redirect host keeps more kept

def bringBack (kept : List Kept) : Action Unit := kept.forM fun k => do
  match k.place? with
  | none => ask (Program.close k.fd)
  | some place =>
    let _ ← ask (Program.duplicate place k.fd)
    ask (Program.close place)

def letGo (kept : List Kept) : Action Unit := kept.forM fun k => do
  match k.place? with
  | none => pure ()
  | some place => ask (Program.close place)

def withRedirections (host : Host) (rs : List Redirection) (steps : Action Nat) : Action Nat := do
  let aims ← rs.mapM (aim host)
  let (kept, isDone) ← redirect host true aims []
  let r ← if isDone then attempt steps else pure (.ok 2)
  bringBack kept
  proceed r

end Action
end LintRepair.Shell
