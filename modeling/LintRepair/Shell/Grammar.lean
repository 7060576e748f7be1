import LintRepair.Shell.WordReader

/-!
Reading scripts from their tokens. A script is read one list of commands after the other, each up to
the end of a line, so that what comes behind is read only when the commands before it are done. All
readers have fuel, of which a text never needs more than a few units for each of its characters.
-/
namespace LintRepair.Shell

inductive Site where
  | line
  | body
  | optional
deriving DecidableEq, Repr

def reservedNames : List String :=
  [".", ":", "break", "continue", "eval", "exec", "exit", "export", "readonly", "return", "set",
    "shift", "times", "trap", "unset"]

def Script.ofSteps : List Script → Option Script
  | [] => none
  | [a] => some a
  | steps => some (.sequence steps)

def Script.inBackground : Script → Script
  | .pipeline stages _ => .pipeline stages true
  | .redirected line a rs => .background line a rs
  | a => .background 1 a []

namespace Reader

def redirection (inner : Inner) : Reader Redirection := do
  let s ← get
  let (fd, a) := (s.fd, s.arrow)
  match a with
  | .document _ => set { s with isMark := true }
  | _ => pure ()
  if (← token inner) ≠ .word then unexpected none
  else
    let s ← get
    match a with
    | .file o => return .file fd o s.word
    | .same =>
      match s.word with
      | [.text [c] false] =>
        if c.isDigit then return .same fd (some (c.toNat - 48))
        else if c = '-' then return .same fd none
        else return .named fd s.word
      | w => return .named fd w
    | .document noTabs =>
      let d : Document := ⟨s.fresh, (literal s.word).toList, noTabs, !s.isQuoted⟩
      set { s with fresh := s.fresh + 1, waiting := s.waiting ++ [d] }
      return .document fd s.fresh (!s.isQuoted)

/-- The words and redirections of a command. The answer of the reader is also whether parentheses
follow that make it a function. -/
def simpleParts (inner : Inner) :
    Nat → Bool → List Word → List Word → List Redirection →
      Reader (List Word × List Word × List Redirection × Bool)
  | 0, _, settings, words, rs => return (settings.reverse, words.reverse, rs.reverse, false)
  | fuel + 1, isStart, settings, words, rs => do
    expect false false isStart
    match ← token inner with
    | .word =>
      let w := (← get).word
      if isStart && isSetting w then simpleParts inner fuel true (w :: settings) words rs
      else simpleParts inner fuel false settings (w :: words) rs
    | .redirection =>
      let r ← redirection inner
      simpleParts inner fuel isStart settings words (r :: rs)
    | .opening =>
      if words.length = 1 && settings.isEmpty && rs.isEmpty then return ([], words, [], true)
      else
        back
        return (settings.reverse, words.reverse, rs.reverse, false)
    | _ =>
      back
      return (settings.reverse, words.reverse, rs.reverse, false)

def redirectionsAfter (inner : Inner) : Nat → List Redirection → Reader (List Redirection)
  | 0, rs => return rs.reverse
  | fuel + 1, rs => do
    if (← token inner) = .redirection then
      let r ← redirection inner
      redirectionsAfter inner fuel (r :: rs)
    else
      back
      return rs.reverse

def loopWords (inner : Inner) : Nat → List Word → Reader (List Word)
  | 0, words => return words.reverse
  | fuel + 1, words => do
    if (← token inner) = .word then loopWords inner fuel ((← get).word :: words)
    else return words.reverse

/-- The patterns of an arm, the first of them being the last token. A token that is no word stands
for the last one that was read. -/
def patterns (inner : Inner) : Nat → List Word → Reader (List Word)
  | 0, ws => return ws.reverse
  | fuel + 1, ws => do
    let ws := (← get).word :: ws
    if (← token inner) = .pipe then
      let _ ← token inner
      patterns inner fuel ws
    else return ws.reverse

def require (t wanted : Token) : Reader Unit :=
  if t = wanted then pure () else unexpected (some wanted)

mutual

def innerScript : Nat → Inner
  | 0, _ => return none
  | fuel + 1, ticked => do
    let outside := (← get).waiting
    modify fun s => { s with waiting := [] }
    let script ← list fuel .optional true []
    if !ticked then
      require (← token (innerScript fuel)) .closing
      let s ← get
      set { s with rest := [] }
      waitingDocuments (innerScript fuel)
      modify fun after => { after with rest := s.rest, line := s.line }
    modify fun s => { s with waiting := outside }
    return script

/-- The rest of a list of commands, the steps before it coming in reverse. -/
def list : Nat → Site → Bool → List Script → Reader (Option Script)
  | 0, _, _, steps => return Script.ofSteps steps.reverse
  | fuel + 1, site, isStart, steps => do
    expect (site ≠ .line) true true
    let t ← token (innerScript fuel)
    if t = .lineEnd || t = .ending then
      waitingDocuments (innerScript fuel)
      if t = .ending then
        back
        modify fun s => { s with token := .ending }
      return Script.ofSteps steps.reverse
    else
      back
      if (site = .optional || (site = .body && !isStart)) && t.endsList then
        return Script.ofSteps steps.reverse
      else
        let a ← chain fuel
        let t ← token (innerScript fuel)
        let a := if t = .background then a.inBackground else a
        let steps := a :: steps
        if t = .ending then
          waitingDocuments (innerScript fuel)
          back
          modify fun s => { s with token := .ending }
          return Script.ofSteps steps.reverse
        else
          if t = .lineEnd then back
          if t = .lineEnd || t = .background || t = .semicolon then list fuel site false steps
          else if site = .line then unexpected none
          else
            back
            return Script.ofSteps steps.reverse

/-- Commands of which each runs only after the one before it has ended well, or badly. -/
def chain : Nat → Reader Script
  | 0 => return default
  | fuel + 1 => do
    let a ← pipeline fuel
    chainAfter fuel a

def chainAfter : Nat → Script → Reader Script
  | 0, a => return a
  | fuel + 1, a => do
    match ← token (innerScript fuel) with
    | .both =>
      expect true true true
      let b ← pipeline fuel
      chainAfter fuel (.both a b)
    | .either =>
      expect true true true
      let b ← pipeline fuel
      chainAfter fuel (.either a b)
    | _ =>
      back
      return a

def pipeline : Nat → Reader Script
  | 0 => return default
  | fuel + 1 => do
    let isNegated := (← token (innerScript fuel)) = .keyNot
    if isNegated then expect false true true else back
    let a ← command fuel
    let a ← if (← token (innerScript fuel)) = .pipe then
        let stages ← pipelineAfter fuel [a]
        pure (Script.pipeline stages false)
      else
        back
        pure a
    return if isNegated then .negated a else a

def pipelineAfter : Nat → List Script → Reader (List Script)
  | 0, stages => return stages.reverse
  | fuel + 1, stages => do
    expect true true true
    let a ← command fuel
    if (← token (innerScript fuel)) = .pipe then pipelineAfter fuel (a :: stages)
    else
      back
      return (a :: stages).reverse

def body : Nat → Reader Script
  | 0 => return default
  | fuel + 1 => return (← list fuel .body true []).getD default

def choiceAfter : Nat → Script → Reader Script
  | 0, condition => return condition
  | fuel + 1, condition => do
    require (← token (innerScript fuel)) .keyThen
    let yes ← body fuel
    match ← token (innerScript fuel) with
    | .keyElif =>
      let next ← body fuel
      let no ← choiceAfter fuel next
      return .choice condition yes (some no)
    | .keyElse => return .choice condition yes (some (← body fuel))
    | _ =>
      back
      return .choice condition yes none

def arms : Nat → List (List Word × Option Script) → Reader (List (List Word × Option Script))
  | 0, done => return done.reverse
  | fuel + 1, done => do
    expect true true false
    let t ← token (innerScript fuel)
    if t = .keyEsac then return done.reverse
    else
      if t = .opening then
        let _ ← token (innerScript fuel)
      let ws ← patterns (innerScript fuel) fuel []
      require (← get).token .closing
      let a ← list fuel .optional true []
      expect true true false
      let t ← token (innerScript fuel)
      let done := (ws, a) :: done
      if t = .keyEsac then return done.reverse
      else
        require t .armEnd
        arms fuel done

def each (line : Nat) : Nat → Reader Script
  | 0 => return default
  | fuel + 1 => do
    let t ← token (innerScript fuel)
    let s ← get
    let name := literal s.word
    if t ≠ .word || s.isQuoted || !isPlain s.word || !isName name then
      fail "Bad for loop variable"
    else
      expect true true true
      let t ← token (innerScript fuel)
      let words ← if t = .keyIn then
          let words ← loopWords (innerScript fuel) fuel []
          let t := (← get).token
          if t ≠ .lineEnd && t ≠ .semicolon then unexpected none
          else pure words
        else
          if t ≠ .semicolon then back
          pure [allWords]
      expect true true true
      require (← token (innerScript fuel)) .keyDo
      return .each line name words (← body fuel)

def command : Nat → Reader Script
  | 0 => return default
  | fuel + 1 => do
    let line := (← get).line
    let inner := innerScript fuel
    let ended := fun (t : Token) (a : Script) => do
      require (← token inner) t
      redirected fuel line a
    match ← token inner with
    | .keyIf =>
      let condition ← body fuel
      ended .keyFi (← choiceAfter fuel condition)
    | .keyWhile | .keyUntil =>
      let well := (← get).token = .keyWhile
      let condition ← body fuel
      require (← token inner) .keyDo
      ended .keyDone (.loop well condition (← body fuel))
    | .keyFor => ended .keyDone (← each line fuel)
    | .keyCase =>
      require (← token inner) .word
      let w := (← get).word
      expect true true true
      require (← token inner) .keyIn
      redirected fuel line (.select line w (← arms fuel []))
    | .opening => ended .closing (.subshell line (← body fuel) [])
    | .keyOpen => ended .keyClose (← body fuel)
    | .word | .redirection =>
      back
      simple fuel
    | _ => unexpected none

def redirected : Nat → Nat → Script → Reader Script
  | 0, _, a => return a
  | fuel + 1, line, a => do
    expect false true true
    let rs ← redirectionsAfter (innerScript fuel) fuel []
    if rs.isEmpty then return a
    else
      match a with
      | .subshell l b _ => return .subshell l b rs
      | a => return .redirected line a rs

def simple : Nat → Reader Script
  | 0 => return default
  | fuel + 1 => do
    let line := (← get).line
    let inner := innerScript fuel
    let (settings, words, rs, isFunction) ← simpleParts inner fuel true [] [] []
    if !isFunction then return .simple line settings words rs
    else
      require (← token inner) .closing
      let w := words.headD []
      let name := literal w
      if !isPlain w || !isName name || reservedNames.contains name then fail "Bad function name"
      else
        expect true true true
        let line := (← get).line
        return .define name line (← command fuel)

end

end Reader

inductive Reading where
  | done
  /-- Commands on a line, none on an empty one. The text behind them is left; it is at its end if
  so noted. -/
  | line (a : Option Script) (isLast : Bool) (rest : Source)
  | failed (e : ScriptError)

def Source.next (s : Source) : Reading :=
  let fuel := 12 * s.rest.length + 10000
  let start := { s with isBack := false, waiting := [] }
  match (Reader.list fuel .line true []).run start with
  | .error e => .failed e
  | .ok (a, after) =>
    let isLast := after.isBack && after.token = .ending
    if a.isNone && isLast then .done else .line a isLast after

/-- A text read as if it stood in double quotes; none if it can not be read. -/
def quotedWord? (text : String) : Option Word :=
  let fuel := text.length + 1
  let start : Draft := { layer := { mode := .double, isDouble := true } }
  let reader := Reader.wordRest (Reader.innerScript (12 * fuel)) (some (['\x00'], false)) fuel start
  match reader.run { rest := text.toList } with
  | .ok (d, _) => some d.toWord
  | .error _ => none

end LintRepair.Shell
