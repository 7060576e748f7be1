import LintRepair.Tools.Options

/-!
Listing files and the names in directories.
-/
namespace LintRepair.Tools
open LintRepair.System

structure Listing where
  all : Bool := false
  almostAll : Bool := false
  directories : Bool := false
  recursive : Bool := false
  reversed : Bool := false
  marks : Bool := false
  commas : Bool := false
  quotes : Bool := false
  bySize : Bool := false
  byExtension : Bool := false
  hidesBackups : Bool := false

structure Entry where
  name : String
  isDirectory : Bool
  size : Nat := 0
deriving DecidableEq, Repr

def Listing.shown (l : Listing) (e : Entry) : String :=
  let quoted := fun (c : Char) =>
    if c = '"' || c = '\\' then ['\\', c] else if isShown c then [c] else escaped c
  (if l.quotes then "\"" ++ String.ofList (e.name.toList.flatMap quoted) ++ "\"" else e.name) ++
    if l.marks && e.isDirectory then "/" else ""

def extension (name : String) : String :=
  let behind := (name.toList.reverse.takeWhile (· ≠ '.')).reverse
  if behind.length = name.length then "" else "." ++ String.ofList behind

def Listing.ordered (l : Listing) (es : List Entry) : List Entry :=
  let byName := es.mergeSort (·.name ≤ ·.name)
  let sorted := if l.bySize then byName.mergeSort fun a b => b.size ≤ a.size
    else if l.byExtension then byName.mergeSort fun a b => extension a.name ≤ extension b.name
    else byName
  if l.reversed then sorted.reverse else sorted

def Listing.print (l : Listing) (i : Invocation) (es : List Entry) : Program Unit := do
  let names := es.map l.shown
  let text := if l.commas then
      (if names.isEmpty then "" else commaLines names ++ "\n")
    else String.join (names.map (· ++ "\n"))
  i.printOr 2 (ByteText.toBytes text)
where
  commaLines (names : List String) : String :=
    (names.foldl (fun (text, column) name =>
      if column = 0 then (name, name.length)
      else if column + name.length + 2 ≥ 80 then (text ++ ",\n" ++ name, name.length)
      else (text ++ ", " ++ name, column + 2 + name.length)) ("", 0)).1

def pathIn (directory name : String) : String :=
  if directory.endsWith "/" then directory ++ name else directory ++ "/" ++ name

def entryOf (name : String) (c : Channel) : Entry :=
  match c.kind with
  | .directory => ⟨name, true, 4096⟩
  | .file n => ⟨name, false, n⟩
  | _ => ⟨name, false, 0⟩

def Listing.entries (l : Listing) (directory : String) : Program (Except Refusal (List Entry)) := do
  match ← Program.names directory with
  | .error e => return .error e
  | .ok names =>
    let names := if l.all || l.almostAll then names else names.filter (!·.startsWith ".")
    let names := if l.all then "." :: ".." :: names else names
    let names := if l.hidesBackups then names.filter (!·.endsWith "~") else names
    let es ← names.mapM fun name => do
      match ← Program.look (pathIn directory name) with
      | .ok c => return entryOf name c
      | .error _ => return ⟨name, false, 0⟩
    return .ok (l.ordered es)

/-- Listing directories, and what is below them if so asked. `isFirst` tells that nothing was printed
before; `fuel` bounds the directories. -/
def Listing.listAll (l : Listing) (i : Invocation) (named : Bool) :
    Nat → Bool → Nat → List String → Program Nat
  | 0, _, status, _ => return status
  | _, _, status, [] => return status
  | fuel + 1, isFirst, status, d :: ds => do
    match ← l.entries d with
    | .error e => do
      i.complain ("cannot open directory " ++ shellQuoted d ++ ": " ++ e.reason)
      l.listAll i named fuel isFirst (max status 2) ds
    | .ok es => do
      if named then
        i.printOr 2 (ByteText.toBytes ((if isFirst then "" else "\n") ++ d ++ ":\n"))
      l.print i es
      let below := if l.recursive then
          (es.filter fun e => e.isDirectory && e.name ≠ "." && e.name ≠ "..").map
            fun e => pathIn d e.name
        else []
      l.listAll i named fuel false status (below ++ ds)

def lsOptions : OptionTable where
  letters := flags "aAbBcCdDfFgGhHiklLmnNopqQrRsStuUvxXZ1" ++
    [('I', .something), ('T', .something), ('w', .something)]
  names := [("all", .nothing, 'a'), ("almost-all", .nothing, 'A'), ("directory", .nothing, 'd'),
    ("recursive", .nothing, 'R'), ("reverse", .nothing, 'r'), ("classify", .maybe, 'F'),
    ("quote-name", .nothing, 'Q'), ("ignore-backups", .nothing, 'B'), ("literal", .nothing, 'N'),
    ("escape", .nothing, 'b'), ("color", .maybe, 'G'), ("help", .nothing, 'h'),
    ("version", .nothing, 'V')]

def ls : Tool := fun i => do
  let s ← i.sorted lsOptions 2
  let l : Listing :=
    { all := s.has 'a' || s.has 'f', almostAll := s.has 'A', directories := s.has 'd'
      recursive := s.has 'R', reversed := s.has 'r', marks := s.has 'F' || s.has 'p'
      commas := s.has 'm', quotes := s.has 'Q', bySize := s.has 'S', byExtension := s.has 'X'
      hidesBackups := s.has 'B' }
  let names := if s.operands.isEmpty then ["."] else s.operands
  let (es, status) ← names.foldlM (fun (es, status) name => do
    match ← Program.look name with
    | .ok c => return (entryOf name c :: es, status)
    | .error e => do
      i.complain ("cannot access " ++ shellQuoted name ++ ": " ++ e.reason)
      return (es, 2)) (([] : List Entry), 0)
  let es := l.ordered es.reverse
  let files := es.filter fun e => !e.isDirectory || l.directories
  let directories := (es.filter fun e => e.isDirectory && !l.directories).map (·.name)
  l.print i files
  l.listAll i (names.length > 1 || l.recursive) roundLimit files.isEmpty status directories

end LintRepair.Tools
