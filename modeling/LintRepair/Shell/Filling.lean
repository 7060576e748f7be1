import LintRepair.Shell.Field
import LintRepair.Shell.Running
import LintRepair.Shell.Sum

/-!
Filling in words: parameters, what other scripts print, sums and home directories take the place of
what stands for them.
-/
namespace LintRepair.Shell
open LintRepair.System

structure Filling where
  cuts : Bool := false
  isQuoted : Bool := false
  isInner : Bool := false
  seesTilde : Bool := false
  /-- The word sets a variable: a tilde counts also behind the equals sign and behind colons. -/
  isSetting : Bool := false
deriving DecidableEq, Repr

def homes : List (String × String) :=
  [("root", "/root"), ("daemon", "/usr/sbin"), ("bin", "/bin"), ("sys", "/dev"), ("sync", "/bin"),
    ("games", "/usr/games"), ("man", "/var/cache/man"), ("lp", "/var/spool/lpd"),
    ("mail", "/var/mail"), ("news", "/var/spool/news"), ("uucp", "/var/spool/uucp"),
    ("proxy", "/bin"), ("www-data", "/var/www"), ("backup", "/var/backups"), ("list", "/var/list"),
    ("irc", "/run/ircd"), ("nobody", "/nonexistent")]

def Session.home? (s : Session) (user : String) : Option String :=
  if user = "" then s.value? "HOME" else homes.lookup user

/-- A text cut where a tilde stands for a home directory; such pieces are marked. What was gone
through of a piece comes in reverse. A name at the very end counts only if the word ends there.
`fuel` bounds the characters. -/
def tildePieces (home? : String → Option String) (isSetting isLast : Bool) :
    Nat → Bool → Bool → List Char → List Char → List (List Char × Bool)
  | 0, _, _, before, _ => [(before.reverse, false)]
  | _, _, _, before, [] => [(before.reverse, false)]
  | fuel + 1, isStart, isBehind, before, c :: cs =>
    let user := cs.takeWhile fun c => c ≠ '/' && (c ≠ ':' || !isSetting)
    let rest := cs.drop user.length
    let counts := isStart && c = '~' && (isLast || !rest.isEmpty)
    match if counts then home? (String.ofList user) else none with
    | some home =>
      (before.reverse, false) :: (home.toList, true) ::
        tildePieces home? isSetting isLast fuel false isBehind [] rest
    | none =>
      let starts := isSetting && (c = ':' || (c = '=' && !isBehind))
      tildePieces home? isSetting isLast fuel starts (isBehind || c = '=') (c :: before) cs

def Filling.textChunks (f : Filling) (home? : String → Option String)
    (isStart inQuotes isLast : Bool) (cs : List Char) : List Chunk :=
  let cut := if f.isInner && !f.isQuoted && !inQuotes then Cut.fields else .whole
  if cs.contains '~' && (f.seesTilde || f.isSetting) then
    (tildePieces home? f.isSetting isLast (cs.length + 1) (isStart && f.seesTilde)
      (f.isInner || !isStart) [] cs).map fun p => .text p.1 p.2 (if p.2 then .whole else cut)
  else [.text cs false cut]

def Filling.valueChunks (f : Filling) (cs : List Char) (isWords : Bool) : List Chunk :=
  if f.isQuoted then [.text cs true (if isWords then .words else .whole)]
  else [.text cs false .fields]

def optionOrder : List Char := "pubaCEVvxsnmiIfe".toList

def Session.joinedWords (s : Session) (f : Filling) (isEach : Bool) : List Char :=
  let between : List Char :=
    if isEach && f.isQuoted && f.cuts then [wordBreak]
    else
      match s.value? "IFS" with
      | none => [' ']
      | some separators =>
        if f.isQuoted || !f.cuts then separators.toList.take 1 else [wordBreak]
  between.intercalate (s.words.map (·.toList))

/-- The value of a parameter; none if it is missing. -/
def Session.parameter? (s : Session) (f : Filling) (name : String) : Option (List Char) :=
  let number := fun (n : Nat) => (toString n).toList
  match name with
  | "$" => some (number s.process)
  | "?" => some (number s.status)
  | "#" => some (number s.words.length)
  | "!" => s.lastJob.map number
  | "-" => some (optionOrder.filter s.has)
  | "@" => some (s.joinedWords f true)
  | "*" => some (s.joinedWords f false)
  | "0" => some s.name.toList
  | name =>
    if name.all Char.isDigit then
      match name.toNat?.getD 0 with
      | 0 => some s.name.toList
      | n + 1 => s.words[n]?.map (·.toList)
    else (s.value? name).map (·.toList)

namespace Action

def missing {α : Type} (name what : String) : Action α := fail (name ++ ": " ++ what)

def checkMissing (name : String) : Action Unit := do
  if (← get).has 'u' then missing name "parameter not set" else pure ()

/-- Reading all that another process writes. Parts come in reverse; `fuel` bounds them. -/
def collect (fd : Nat) : Nat → List (List UInt8) → Action (List UInt8)
  | 0, parts => return parts.reverse.flatten
  | fuel + 1, parts => do
    match ← ask (Program.read fd 4096) with
    | .ok (b :: bytes) => collect fd fuel ((b :: bytes) :: parts)
    | _ => return parts.reverse.flatten

def outputOf (host : Host) (a : Script) : Action (List Char) := do
  let (input, output) ← ask Program.pipe
  let child ← start host false false (do
    ask (Program.close input)
    if output ≠ 1 then
      let _ ← ask (Program.duplicate output 1)
      ask (Program.close output)
    host.run a { isLast := true })
  ask (Program.close output)
  let bytes ← collect input Tools.roundLimit []
  ask (Program.close input)
  let status ← awaitFront [child]
  modify fun s => { s with outputStatus := status }
  let cs := (ByteText.ofBytes bytes).toList.filter (· ≠ '\x00')
  return (cs.reverse.dropWhile (· = '\n')).reverse

def sumOf (text : String) : Action (List Char) := do
  let s ← get
  let vars : Sum.Variables :=
    { value? := s.value?, isReadOnly := fun name => ((s.lookup? name).getD {}).isReadOnly }
  match Sum.value text vars with
  | .ok (n, settings) =>
    settings.forM fun v => setVariable v.1 (some (toString v.2))
    return (toString n).toList
  | .error (.bad what) => fail ("arithmetic expression: " ++ what ++ ": \"" ++ text ++ "\"")
  | .error (.noNumber w) => noNumber w
  | .error (.readOnly name) => fail (name ++ ": is read only")

mutual

def fillPart (host : Host) (f : Filling) : Part → Action (List Chunk)
  | .text cs isQuoted => return [.text cs isQuoted .whole]
  | .quote => return [.mark]
  | .output none => return f.valueChunks [] false
  | .output (some a) => do
    return f.valueChunks (← outputOf host a) false
  | .sum word => do
    let chunks ← fillParts host {} false false word
    return f.valueChunks (← sumOf (String.ofList (chunksText chunks))) false
  | .parameter name h filled word => do
    if h = .unknown || name = "" then fail "Bad substitution"
    else
      let s ← get
      let f := if h = .words then { f with isQuoted := true } else f
      let value? := s.parameter? f name
      let isMissing := value?.isNone || (filled && value? = some [])
      let value := f.valueChunks (value?.getD []) (name = "@" && !s.words.isEmpty)
      let inside : Filling := { f with isInner := true, seesTilde := true }
      match h with
      | .orWord => if isMissing then fillParts host inside true false word else return value
      | .insteadWord => if isMissing then return [] else fillParts host inside true false word
      | .orFailure =>
        if !isMissing then return value
        else
          let chunks ← fillParts host { seesTilde := true } true false word
          let what := if filled then "parameter not set or null" else "parameter not set"
          missing name (if word.isEmpty then what else String.ofList (chunksText chunks))
      | .orAssigned =>
        if !isMissing then return value
        else
          let chunks ← fillParts host { seesTilde := true } true false word
          setVariable name (some (String.ofList (chunksText chunks)))
          return f.valueChunks (((← get).parameter? f name).getD []) false
      | .withoutStart longest =>
        if isMissing then
          checkMissing name
          return []
        else
          let chunks ← fillParts host { seesTilde := true } true false word
          return f.valueChunks (withoutStart longest (patternOfChunks chunks) (value?.getD []))
            (name = "@" && !s.words.isEmpty)
      | .withoutEnd longest =>
        if isMissing then
          checkMissing name
          return []
        else
          let chunks ← fillParts host { seesTilde := true } true false word
          return f.valueChunks (withoutEnd longest (patternOfChunks chunks) (value?.getD []))
            (name = "@" && !s.words.isEmpty)
      | .length =>
        if isMissing then checkMissing name
        return f.valueChunks (toString (value?.getD []).length).toList false
      | .value | .words | .unknown =>
        if isMissing then
          checkMissing name
          return f.valueChunks [] false
        else return value

def fillParts (host : Host) (f : Filling) (isStart inQuotes : Bool) :
    List Part → Action (List Chunk)
  | [] => return []
  | p :: ps => do
    let chunks ← match p with
      | .text cs false =>
        let s ← get
        pure (f.textChunks s.home? isStart inQuotes ps.isEmpty cs)
      | p => fillPart host { f with isQuoted := f.isQuoted || inQuotes } p
    let inQuotes := match p with
      | .quote => !inQuotes
      | _ => inQuotes
    return chunks ++ (← fillParts host f false inQuotes ps)

end

def fillText (host : Host) (f : Filling) (w : Word) : Action String := do
  return String.ofList (chunksText (← fillParts host f true false w))

def fillFields (host : Host) (w : Word) : Action (List String) := do
  let chunks ← fillParts host { cuts := true, seesTilde := true } true false w
  let s ← get
  let fields := fieldsOf s.separators.toList chunks
  let texts ← fields.mapM fun f => ask (fieldTexts (!s.has 'f') f)
  return texts.flatten

def fillPattern (host : Host) (w : Word) : Action (List Glob) := do
  return patternOfChunks (← fillParts host { seesTilde := true } true false w)

def fillSetting (host : Host) (w : Word) : Action (String × String) := do
  let text ← fillText host { seesTilde := true, isSetting := true } w
  let name := nameIn text.toList
  return (String.ofList name, String.ofList (text.toList.drop (name.length + 1)))

end Action
end LintRepair.Shell
