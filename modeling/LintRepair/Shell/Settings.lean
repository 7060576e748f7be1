import LintRepair.Shell.Builtin

/-!
Commands of the shell that set variables, words and options, or tell them.
-/
namespace LintRepair.Shell
open LintRepair.System

/-- The options of the shell and their letters, in the order in which they are told. -/
def optionNames : List (String × Option Char) :=
  [("errexit", some 'e'), ("noglob", some 'f'), ("ignoreeof", some 'I'), ("interactive", some 'i'),
    ("monitor", some 'm'), ("noexec", some 'n'), ("stdin", some 's'), ("xtrace", some 'x'),
    ("verbose", some 'v'), ("vi", some 'V'), ("emacs", some 'E'), ("noclobber", some 'C'),
    ("allexport", some 'a'), ("notify", some 'b'), ("nounset", some 'u'), ("privileged", some 'p'),
    ("nolog", none), ("debug", none)]

namespace Action

def listing (before : String) (isShown : Variable → Bool) : Action String := do
  let shown := (← get).vars.filter fun v => isShown v.2
  let lines := (shown.mergeSort fun a b => a.1 ≤ b.1).map fun v =>
    before ++ v.1 ++
      (match v.2.value? with
        | some x => "=" ++ inQuotes x
        | none => "") ++ "\n"
  return String.join lines

def cutSetting (w : String) : String × Option String :=
  let name := w.toList.takeWhile (· ≠ '=')
  if name.length < w.length then
    (String.ofList name, some (String.ofList (w.toList.drop (name.length + 1))))
  else (w, none)

def mark (exports readOnly : Bool) (words : List String) : Action Unit := words.forM fun w => do
  match cutSetting w with
  | (name, some value) => setVariable name (some value) exports readOnly
  | (name, none) => markVariable name exports readOnly

def setOption (isOn : Bool) (c : Char) : Action Unit := do
  if optionNames.any (·.2 = some c) then
    modify fun s =>
      let others := s.options.filter (· ≠ c)
      { s with options := if isOn then c :: others else others }
  else fail ("Illegal option -" ++ String.ofList [c])

/-- Setting an option by its name, or taking it back; without a name all are told. -/
def setNamedOption (isOn : Bool) : Option String → Action Unit
  | none => do
    let s ← get
    let isSet := fun (o : String × Option Char) => o.2.any s.has
    let line := fun (o : String × Option Char) =>
      if isOn then
        o.1 ++ String.ofList (List.replicate (16 - o.1.length) ' ') ++
          (if isSet o then "on" else "off") ++ "\n"
      else "set " ++ (if isSet o then "-o " else "+o ") ++ o.1 ++ "\n"
    let head := if isOn then "Current option settings\n" else ""
    let _ ← print (head ++ String.join (optionNames.map line))
  | some name =>
    match optionNames.lookup name with
    | none => fail ("Illegal option -o " ++ name)
    | some none => pure ()
    | some (some c) => setOption isOn c

/-- Setting the options that the letters of a word name; one of them takes the next word. -/
def setLetters (isOn : Bool) : List Char → List String → Action (List String)
  | [], words => return words
  | 'o' :: cs, words => do
    setNamedOption isOn words.head?
    setLetters isOn cs words.tail
  | c :: cs, words => do
    setOption isOn c
    setLetters isOn cs words

/-- Setting options. The answer is the words behind them, and whether these are the new words of the
shell even if there are none. `fuel` bounds the words. -/
def setOptions : Nat → List String → Action (List String × Bool)
  | 0, words => return (words, false)
  | _, [] => return ([], false)
  | fuel + 1, w :: words => do
    match w.toList with
    | ['-'] => do
      modify fun s => { s with options := s.options.filter fun c => c ≠ 'x' && c ≠ 'v' }
      return (words, false)
    | ['-', '-'] => return (words, true)
    | '-' :: cs => setOptions fuel (← setLetters true cs words)
    | '+' :: cs => setOptions fuel (← setLetters false cs words)
    | _ => return (w :: words, false)

end Action

def publish (readOnly : Bool) : Builtin := fun c => do
  let (found, words) ← Action.options "p" (c.words.take 1)
  let words := words ++ c.words.drop 1
  if words.isEmpty || !found.isEmpty then
    Action.print (← Action.listing (c.name ++ " ") fun v =>
      if readOnly then v.isReadOnly else v.isExported)
  else
    Action.mark (!readOnly) readOnly words
    return 0

def localize : Builtin := fun c => do
  if (← get).locals.isEmpty then Action.fail "not in a function"
  else
    c.words.forM fun w => do
      match Action.cutSetting w with
      | ("-", none) => modify fun s =>
        match s.locals with
        | [] => s
        | frame :: more =>
          { s with locals :=
            (("-", some { value? := some (String.ofList s.options) }) :: frame) :: more }
      | (name, value?) =>
        Action.keepVariable name
        match value? with
        | some value => Action.setVariable name (some value)
        | none =>
          if ((← get).lookup? name).isNone then Action.setVariable name none else pure ()
    return 0

def unset : Builtin := fun c => do
  let (found, words) ← Action.options "vf" c.words
  let isFunction := (found.getLast?.map (·.1)) = some 'f'
  words.forM fun w =>
    if isFunction then modify fun s => { s with functions := s.functions.filter (·.1 ≠ w) }
    else Action.unsetVariable w
  return 0

def configure : Builtin := fun c => do
  if c.words.isEmpty then Action.print (← Action.listing "" fun v => v.value?.isSome)
  else
    let (words, isAll) ← Action.setOptions (c.words.length + 1) c.words
    if isAll || !words.isEmpty then
      modify fun s => { s with words := words, optionIndex := 1, optionOffset := none }
    return 0

def shift : Builtin := fun c => do
  let n ← match c.words with
    | [] => pure 1
    | w :: _ => Action.number w
  let s ← get
  if n > s.words.length then Action.fail "can't shift that many"
  else
    set { s with words := s.words.drop n, optionIndex := 1, optionOffset := none }
    return 0

def optionIn (c : Char) : List Char → Option (List Char)
  | [] => none
  | d :: ':' :: ds => if d = c then some (':' :: ds) else optionIn c ds
  | d :: ds => if d = c then some ds else optionIn c ds

def getopts : Builtin := fun c => do
  match c.words with
  | known :: name :: more => do
    let s ← get
    let words := if more.isEmpty then s.words else more
    let isBeyond := s.optionIndex > words.length + 1
    let index := if isBeyond then 1 else s.optionIndex
    let offset? := if isBeyond then none else s.optionOffset
    let left := match offset?, words[index - 2]? with
      | some n, some w => if index ≤ 1 then [] else w.toList.drop n
      | _, _ => []
    let isSilent := known.startsWith ":"
    let finish := fun (index : Nat) (left? : Option (List Char)) (option : Char) (status : Nat) =>
      (do
        Action.setVariable "OPTIND" (some (toString index))
        Action.setVariable name (some (String.ofList [option]))
        modify fun s => { s with
          optionIndex := index
          optionOffset := left?.map fun cs => (words[index - 2]?.getD "").length - cs.length }
        return status : Action Nat)
    let start? := if !left.isEmpty then some (index, left)
      else
        match (words[index - 1]?.getD "").toList with
        | '-' :: d :: cs => some (index + 1, d :: cs)
        | _ => none
    match start? with
    | none => finish index none '?' 1
    | some (index, []) => finish index none '?' 1
    | some (index, d :: cs) =>
      if left.isEmpty && d = '-' && cs.isEmpty then finish index none '?' 1
      else
        match optionIn d known.toList with
        | none =>
          if isSilent then Action.setVariable "OPTARG" (some (String.ofList [d]))
          else
            Action.ask (Program.say 2 ("Illegal option -" ++ String.ofList [d] ++ "\n"))
            Action.unsetVariable "OPTARG"
          finish index (some cs) '?' 0
        | some (':' :: _) =>
          if !cs.isEmpty then
            Action.setVariable "OPTARG" (some (String.ofList cs))
            finish index none d 0
          else
            match words[index - 1]? with
            | some w =>
              Action.setVariable "OPTARG" (some w)
              finish (index + 1) none d 0
            | none =>
              if isSilent then
                Action.setVariable "OPTARG" (some (String.ofList [d]))
                finish index none ':' 0
              else
                Action.ask (Program.say 2 ("No arg for -" ++ String.ofList [d] ++ " option\n"))
                Action.unsetVariable "OPTARG"
                finish index none '?' 0
        | some _ =>
          Action.setVariable "OPTARG" (some "")
          finish index (some cs) d 0
  | _ => Action.fail "Usage: getopts optstring var [arg...]"

end LintRepair.Shell
