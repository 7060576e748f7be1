import LintRepair.Files.Error
import LintRepair.Files.Path
import LintRepair.Text.Utf8

/-!
A file tree without links: which names lead to files and which to directories. An operation of one
step either fails and leaves the tree alone or gives the tree after it. A relative path is looked up
from a base directory and an absolute one from the root, above which there is only the root again.
-/
namespace LintRepair

inductive Node where
  | directory
  | file (bytes : List UInt8)
deriving DecidableEq, Repr

/-- All files, by the names that lead there from the root. The root itself is a directory. -/
structure Tree where
  entries : List (List String × Node) := []
deriving DecidableEq, Repr, Inhabited

namespace Tree

def get? (t : Tree) (key : List String) : Option Node :=
  match key with
  | [] => some .directory
  | _ :: _ => t.entries.lookup key

def set (t : Tree) (key : List String) (n : Node) : Tree :=
  ⟨(key, n) :: t.entries.filter (·.1 ≠ key)⟩

def erase (t : Tree) (key : List String) : Tree :=
  ⟨t.entries.filter (·.1 ≠ key)⟩

def eraseAll (t : Tree) (key : List String) : Tree :=
  ⟨t.entries.filter (!key.isPrefixOf ·.1)⟩

/-- A looked-up path: the key, and whether the path insists on a directory. -/
structure Target where
  key : List String
  asDirectory : Bool
deriving DecidableEq, Repr

def nameLimit : Nat := 255

def pathLimit : Nat := 4095

/-- Following segments from a key. All but the last have to lead to directories. -/
def follow (t : Tree) : List String → List String → Except FileError Target
  | key, [] => .ok ⟨key, true⟩
  | key, segment :: more =>
    if Path.isIdle segment then follow t key more
    else if segment = ".." then follow t key.dropLast more
    else if segment.utf8ByteSize > nameLimit then .error .nameTooLong
    else
      match more with
      | [] => .ok ⟨key ++ [segment], false⟩
      | _ :: _ =>
        match t.get? (key ++ [segment]) with
        | some .directory => follow t (key ++ [segment]) more
        | some (.file _) =>
          if more.all Path.isIdle then .ok ⟨key ++ [segment], true⟩ else .error .notDirectory
        | none =>
          if more.all Path.isIdle then .ok ⟨key ++ [segment], true⟩ else .error .notFound

def unusable? (p : Path) : Option FileError :=
  if p.text.toList.contains '\x00' then some .badName
  else if p.text.utf8ByteSize > pathLimit then some .nameTooLong
  else none

/-- Where a path leads from a base directory. In one that is gone there is nothing to be found. -/
def target (t : Tree) (base : List String) (p : Path) : Except FileError Target :=
  match unusable? p with
  | some e => .error e
  | none =>
    if p.text = "" || t.get? (p.start base) ≠ some .directory then .error .notFound
    else follow t (p.start base) p.segments

def at? (t : Tree) (place : Target) : Except FileError Node :=
  match t.get? place.key with
  | none => .error .notFound
  | some .directory => .ok .directory
  | some (.file bytes) => if place.asDirectory then .error .notDirectory else .ok (.file bytes)

def stat (t : Tree) (base : List String) (p : Path) : Except FileError Node :=
  (t.target base p).bind t.at?

def exists? (t : Tree) (base : List String) (p : Path) : Bool :=
  match t.stat base p with
  | .ok _ => true
  | .error _ => false

def isDirectory (t : Tree) (base : List String) (p : Path) : Bool :=
  match t.stat base p with
  | .ok .directory => true
  | _ => false

def readBytes (t : Tree) (base : List String) (p : Path) : Except FileError (List UInt8) :=
  match t.stat base p with
  | .ok (.file bytes) => .ok bytes
  | .ok .directory => .error .isDirectory
  | .error e => .error e

def readText (t : Tree) (base : List String) (p : Path) : Except FileError String :=
  match t.readBytes base p with
  | .ok bytes =>
    match strictText? bytes with
    | some s => .ok s
    | none => .error .notText
  | .error e => .error e

/-- The tree with a file put where a looked-up path leads, over a file that is there. -/
def putAt (t : Tree) (place : Target) (bytes : List UInt8) : Except FileError Tree :=
  match t.get? place.key with
  | some .directory => .error .isDirectory
  | some (.file _) =>
    if place.asDirectory then .error .notDirectory else .ok (t.set place.key (.file bytes))
  | none => if place.asDirectory then .error .isDirectory else .ok (t.set place.key (.file bytes))

def writeBytes (t : Tree) (base : List String) (p : Path) (bytes : List UInt8) :
    Except FileError Tree :=
  (t.target base p).bind fun place => t.putAt place bytes

def writeText (t : Tree) (base : List String) (p : Path) (s : String) : Except FileError Tree :=
  t.writeBytes base p (utf8 s)

/-- Making the directories that segments name, each inside the one before. Those made before a
failure stay. -/
def makeAlong (t : Tree) : List String → List String → Except FileError Unit × Tree
  | _, [] => (.ok (), t)
  | key, segment :: more =>
    if Path.isIdle segment then makeAlong t key more
    else if segment = ".." then makeAlong t key.dropLast more
    else if segment.utf8ByteSize > nameLimit then (.error .nameTooLong, t)
    else
      match t.get? (key ++ [segment]) with
      | some .directory => makeAlong t (key ++ [segment]) more
      | some (.file _) =>
        (.error (if more.all Path.isIdle then .alreadyExists else .notDirectory), t)
      | none => makeAlong (t.set (key ++ [segment]) .directory) (key ++ [segment]) more

/-- Making the directories that segments name below a directory, if that is still there. -/
def makeBelow (t : Tree) (key segments : List String) : Except FileError Unit × Tree :=
  if t.get? key = some .directory then t.makeAlong key segments else (.error .notFound, t)

/-- The tree with a directory and all that lead to it; the empty path asks for nothing. -/
def makeDirectories (t : Tree) (base : List String) (p : Path) : Except FileError Unit × Tree :=
  match unusable? p with
  | some e => (.error e, t)
  | none => if p.text = "" then (.ok (), t) else t.makeBelow (p.start base) p.segments

/-- The tree with a file moved from one place to another, over a file that is there. -/
def moveTo (t : Tree) (source goal : Target) : Except FileError Tree :=
  match t.get? source.key, t.get? goal.key with
  | some (.file _), some .directory => .error .isDirectory
  | some (.file bytes), _ =>
    if goal.asDirectory then .error .notDirectory
    else .ok ((t.erase source.key).set goal.key (.file bytes))
  | _, _ => .error .notFound

def rename (t : Tree) (base : List String) (old new : Path) : Except FileError Tree :=
  (t.target base old).bind fun source => (t.target base new).bind fun goal => t.moveTo source goal

def remove (t : Tree) (base : List String) (p : Path) : Except FileError Tree :=
  (t.target base p).bind fun place =>
    match t.get? place.key with
    | none => .error .notFound
    | some _ => .ok (t.eraseAll place.key)

def namesIn (t : Tree) (key : List String) : List String :=
  (t.entries.filterMap fun e =>
    match e.1.getLast? with
    | some name => if e.1.dropLast = key then some name else none
    | none => none).mergeSort (· ≤ ·)

/-- Everything below a key as path texts, directories with a slash behind, in text order. -/
def listing (t : Tree) (key : List String) : List (String × Node) :=
  (t.entries.filterMap fun e =>
    if key.isPrefixOf e.1 && e.1.length > key.length then
      let path := "/".intercalate (e.1.drop key.length)
      some (match e.2 with
        | .directory => (path ++ "/", e.2)
        | .file _ => (path, e.2))
    else none).mergeSort (·.1 ≤ ·.1)

theorem get?_set (t : Tree) {key : List String} (hk : key ≠ []) (n : Node) (q : List String) :
    (t.set key n).get? q = if q = key then some n else t.get? q := by
  cases q with
  | nil => simp [get?, Ne.symm hk]
  | cons x q =>
    simp only [get?, set, List.lookup_cons]
    by_cases h : x :: q = key
    · simp [h]
    · have hb : (x :: q == key) = false := by simpa using h
      rw [hb, if_neg h]
      show List.lookup (x :: q) (t.entries.filter (·.1 ≠ key)) = List.lookup (x :: q) t.entries
      induction t.entries with
      | nil => rfl
      | cons e es ih =>
        obtain ⟨k, m⟩ := e
        by_cases hkk : k = key
        · have hne : (x :: q == k) = false := by simpa [hkk] using h
          simp only [hkk, ne_eq, not_true_eq_false, decide_false, Bool.false_eq_true,
            not_false_eq_true, List.filter_cons_of_neg, List.lookup_cons]
          rw [ih]
          rw [hkk] at hne
          simp [hne]
        · simp only [ne_eq, hkk, not_false_eq_true, decide_true, List.filter_cons_of_pos,
            List.lookup_cons]
          split <;> simp_all

end Tree
end LintRepair
