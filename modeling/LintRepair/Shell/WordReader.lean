import LintRepair.Shell.Token

/-!
Reading one word, character by character. How a character is read depends on the layer it stands
in: plain text, one of the two kinds of quotes, or a sum. A parameter with a word behind it may
begin a layer of its own; layers and parameters that are still open lie on stacks.
-/
namespace LintRepair.Shell

inductive Mode where
  | plain
  | double
  | single
  | sum
deriving DecidableEq, Repr

structure Layer where
  mode : Mode := .plain
  isDouble : Bool := false
  isInner : Bool := false
  opens : Nat := 0
  doubleOpen : Nat := 0
  parentheses : Nat := 0
  isOwn : Bool := false
deriving DecidableEq, Repr, Inhabited

/-- A part that is still open, with the parts before it, the last first. -/
inductive Opened where
  | parameter (name : String) (h : Handling) (filled : Bool) (before : List Part)
  | sum (before : List Part)

/-- A word while it is read. Characters and parts come in reverse. -/
structure Draft where
  layer : Layer := {}
  below : List Layer := []
  text : List Char := []
  isQuoted : Bool := false
  parts : List Part := []
  opened : List Opened := []
  hasQuotes : Bool := false

namespace Draft

def flushed (d : Draft) : Draft :=
  if d.text.isEmpty then d
  else { d with text := [], parts := .text d.text.reverse d.isQuoted :: d.parts }

def put (d : Draft) (c : Char) (quoted : Bool) : Draft :=
  if d.isQuoted = quoted then { d with text := c :: d.text }
  else { d.flushed with text := [c], isQuoted := quoted }

def putPlain (d : Draft) (c : Char) : Draft :=
  d.put c (d.layer.mode = .double || d.layer.mode = .single)

def add (d : Draft) (p : Part) : Draft :=
  let d := d.flushed
  { d with parts := p :: d.parts }

/-- The draft with a quotation mark; documents have none. -/
def mark (d : Draft) (isDocument : Bool) : Draft := if isDocument then d else d.add .quote

def push (d : Draft) (l : Layer) : Draft := { d with layer := l, below := d.layer :: d.below }

def pop (d : Draft) : Draft :=
  match d.below with
  | [] => d
  | l :: more => { d with layer := l, below := more }

def start (d : Draft) (o : List Part → Opened) : Draft :=
  let d := d.flushed
  { d with parts := [], opened := o d.parts :: d.opened }

def finish (d : Draft) : Draft :=
  let d := d.flushed
  match d.opened with
  | [] => d
  | .parameter name h filled before :: more =>
    { d with
      parts := .parameter name h filled (joinWords false d.parts.reverse) :: before
      opened := more }
  | .sum before :: more => { d with parts := .sum d.parts.reverse :: before, opened := more }

def toWord (d : Draft) : Word := joinWords false d.flushed.parts.reverse

def closeBrace (d : Draft) : Draft :=
  let l := d.layer
  if l.isInner || l.opens = 0 then d.putPlain '\x7d'
  else
    let l := { l with opens := l.opens - 1 }
    if l.opens = 0 && l.isOwn then { d with layer := l }.finish.pop
    else { d with layer := { l with doubleOpen := l.doubleOpen - 1 } }.finish

def doubleQuote (d : Draft) (isDocument : Bool) : Draft :=
  let toggled := fun (l : Layer) => if l.opens > 0 then { l with isInner := !l.isInner } else l
  let l := d.layer
  if l.mode = .plain then
    { d with layer := toggled { l with mode := .double, isDouble := true } }.mark isDocument
  else if isDocument && l.opens = 0 then d.putPlain '\x22'
  else
    let l := if l.doubleOpen = 0 then { l with mode := .plain, isDouble := false } else l
    { d with layer := toggled l, hasQuotes := true }.mark isDocument

def singleQuote (d : Draft) (isDocument : Bool) : Draft :=
  let l := d.layer
  if l.mode = .plain then { d with layer := { l with mode := .single } }.mark isDocument
  else if isDocument && l.opens = 0 then d.putPlain '\''
  else
    let l := if l.doubleOpen = 0 then { l with mode := .plain, isDouble := false } else l
    { d with layer := l, hasQuotes := true }.mark isDocument

def escape (d : Draft) (isDocument : Bool) : Option Char → Draft
  | none => d.put '\\' true
  | some c =>
    let l := d.layer
    let keeps := l.isDouble && c ≠ '\\' && c ≠ '`' && c ≠ '$' &&
      (c ≠ '"' || (isDocument && l.opens = 0)) && (c ≠ '\x7d' || l.opens = 0)
    let d := if keeps then d.put '\\' true else d
    { d.put c true with hasQuotes := true }

end Draft

/-- What reads a script inside a word; whether it is written between backticks. -/
abbrev Inner := Bool → Reader (Option Script)

def Source.replacement? (s : Source) (name : String) : Option String :=
  if s.expanding.any (·.name = name) then none else s.replacements.lookup name

namespace Reader

/-- Taking characters as long as they belong to a name, lines being joined. `fuel` bounds them. -/
def takeWhile (p : Char → Bool) : Nat → List Char → Reader String
  | 0, read => return String.ofList read.reverse
  | fuel + 1, read => do
    match ← peek? with
    | none => return String.ofList read.reverse
    | some c =>
      if p c then
        drop
        takeWhile p fuel (c :: read)
      else return String.ofList read.reverse

def isSpecial (c : Char) : Bool :=
  c = '!' || c = '$' || c = '-' || c = '?' || c = '*' || c = '@' || c = '#' || c.isDigit

/-- The text up to the closing backtick, a backslash before some characters being taken away. -/
def ticked (isDouble : Bool) : Nat → List Char → Reader (List Char)
  | 0, _ => fail "EOF in backquote substitution"
  | fuel + 1, read => do
    match ← peek? with
    | none => fail "EOF in backquote substitution"
    | some c =>
      drop
      if c = '`' then return read.reverse
      else if c = '\\' then
        match (← get).rest with
        | [] => ticked isDouble fuel ('\\' :: read)
        | c :: _ =>
          drop
          let isPlain := c ≠ '\\' && c ≠ '`' && c ≠ '$' && (!isDouble || c ≠ '"')
          ticked isDouble fuel (c :: if isPlain then '\\' :: read else read)
      else
        if c = '\n' then newLine
        ticked isDouble fuel (c :: read)

/-- A script between backticks, behind the first of them. Its lines are counted on their own. -/
def tickedScript (inner : Inner) (isDouble : Bool) : Reader (Option Script) := do
  let text ← ticked isDouble ((← get).rest.length + 1) []
  let outside ← get
  set { outside with rest := text, line := 1, waiting := [], expanding := [] }
  let script ← inner true
  modify fun s => { s with
    rest := outside.rest, line := outside.line, waiting := outside.waiting
    expanding := outside.expanding, isBack := false }
  return script

/-- What is done with a parameter in braces, and whether an empty value counts as missing. -/
def handling : Reader (Handling × Bool) := do
  let filled ← take? ':'
  match ← peek? with
  | none => return (.unknown, filled)
  | some c =>
    drop
    match c with
    | '\x7d' => return (.value, filled)
    | '-' => return (.orWord, filled)
    | '+' => return (.insteadWord, filled)
    | '?' => return (.orFailure, filled)
    | '=' => return (.orAssigned, filled)
    | '%' =>
      if filled then return (.unknown, filled)
      else return (.withoutEnd (← take? '%'), filled)
    | '#' =>
      if filled then return (.unknown, filled)
      else return (.withoutStart (← take? '#'), filled)
    | _ => return (.unknown, filled)

def parameterName (isBraced : Bool) : Reader String := do
  let fuel := (← get).rest.length + 1
  match ← peek? with
  | none => return ""
  | some c =>
    if isNameStart c then takeWhile isNameChar fuel []
    else if c.isDigit then
      if isBraced then takeWhile Char.isDigit fuel []
      else
        drop
        return String.ofList [c]
    else return ""

def braced : Reader (String × Handling × Bool) := do
  let name ← parameterName true
  if name ≠ "" then
    let (h, filled) ← handling
    return (name, h, filled)
  else
    match ← peek? with
    | none => return ("", .unknown, false)
    | some '\x7d' =>
      let (h, filled) ← handling
      return ("", h, filled)
    | some c =>
      drop
      if c = '#' then
        match ← peek? with
        | some d =>
          if isNameStart d || d.isDigit then
            let name ← parameterName true
            if ← take? '\x7d' then return (name, .length, false)
            else return (name, .unknown, false)
          else
            let before ← get
            drop
            if d ≠ '\x7d' && (← peek?) = some '\x7d' then
              if isSpecial d then
                drop
                return (String.ofList [d], .length, false)
              else return ("", .unknown, false)
            else
              set before
              let (h, filled) ← handling
              return ("#", h, filled)
        | none =>
          let (h, filled) ← handling
          return ("#", h, filled)
      else if isSpecial c then
        let (h, filled) ← handling
        return (String.ofList [c], h, filled)
      else return ("", .unknown, false)

/-- The draft with a parameter that begins; one without a word behind it ends at once. -/
def withParameter (d : Draft) (name : String) (h : Handling) (filled : Bool) : Draft :=
  if h = .value && !filled then d.add (.parameter name .value false [])
  else
    let mode := match h with
      | .withoutEnd _ | .withoutStart _ => Mode.plain
      | _ => d.layer.mode
    let mode := if mode = .sum then .double else mode
    let d := d.start (.parameter name h filled)
    let d := if mode ≠ d.layer.mode || d.layer.isInner then
        d.push { mode := mode, isDouble := mode ≠ .plain, isOwn := true }
      else d
    { d with layer := { d.layer with
        opens := d.layer.opens + 1
        doubleOpen := d.layer.doubleOpen + if d.layer.isDouble then 1 else 0 } }

def dollar (inner : Inner) (d : Draft) : Reader Draft := do
  match ← peek? with
  | none => return d.putPlain '$'
  | some c =>
    if (← get).isMark then return d.putPlain '$'
    else if c = '(' then
      drop
      if ← take? '(' then
        return (d.start .sum).push { mode := .sum, isDouble := true }
      else
        let script ← inner false
        return d.add (.output script)
    else if c = '\x7b' then
      drop
      let (name, h, filled) ← braced
      if h = .length then return d.add (.parameter name .length false [])
      else return withParameter d name h filled
    else if isNameStart c || isSpecial c then
      let name ← parameterName false
      if name ≠ "" then return d.add (.parameter name .value false [])
      else
        drop
        return d.add (.parameter (String.ofList [c]) .value false [])
    else return d.putPlain '$'

def isSeparator (c : Char) : Bool :=
  c = '<' || c = '>' || c = '(' || c = ')' || c = ';' || c = '&' || c = '|' || c = ' ' || c = '\t'

/-- The draft after a character that does not end the word. It was taken from the text. -/
def character (inner : Inner) (isDocument : Bool) (d : Draft) (c : Char) : Reader Draft := do
  let mode := d.layer.mode
  if mode = .single then
    return if c = '\'' then d.singleQuote isDocument else d.putPlain c
  else
    match c with
    | '\\' =>
      match (← get).rest with
      | [] => return d.escape isDocument none
      | e :: _ =>
        drop
        if e = '\n' then newLine
        return d.escape isDocument (some e)
    | '$' => dollar inner d
    | '\x7d' => return d.closeBrace
    | '`' =>
      if (← get).isMark then return d.putPlain '`'
      else return d.add (.output (← tickedScript inner d.layer.isDouble))
    | '"' => return if mode = .sum then d.putPlain c else d.doubleQuote isDocument
    | '\'' => return if mode = .plain then d.singleQuote isDocument else d.putPlain c
    | '(' =>
      if mode = .sum then
        return { d.putPlain c with
          layer := { d.layer with parentheses := d.layer.parentheses + 1 } }
      else return d.putPlain c
    | ')' =>
      if mode = .sum then
        if d.layer.parentheses > 0 then
          return { d.putPlain c with
            layer := { d.layer with parentheses := d.layer.parentheses - 1 } }
        else if ← take? ')' then return d.finish.pop
        else return d.putPlain c
      else return d.putPlain c
    | c => return d.putPlain c

/-- The document ends with the line that follows; tabs before it may be left out. The answer tells
so, the line being taken if it is the last one. -/
def atMark (mark : Option (List Char × Bool)) : Reader Bool := do
  match mark with
  | none => return false
  | some (mark, noTabs) =>
    let s ← get
    let rest := if noTabs then s.rest.dropWhile (· = '\t') else s.rest
    if mark.isPrefixOf rest then
      match rest.drop mark.length with
      | [] =>
        set { s with rest := [] }
        return true
      | '\n' :: more =>
        set { s with rest := more, line := s.line + 1 }
        return true
      | _ =>
        set { s with rest := rest }
        return false
    else
      set { s with rest := rest }
      return false

/-- The rest of a word or of a document. `fuel` bounds its characters. -/
def wordRest (inner : Inner) (mark : Option (List Char × Bool)) : Nat → Draft → Reader Draft
  | 0, d => return d
  | fuel + 1, d => do
    if d.layer.mode ≠ .single then join
    match (← get).rest with
    | [] => return d
    | c :: _ =>
      let ends := d.layer.mode = .plain && d.layer.opens = 0
      if c = '\n' then
        if ends then return d
        else
          drop
          newLine
          let d := d.putPlain c
          if ← atMark mark then return d else wordRest inner mark fuel d
      else if ends && isSeparator c then return d
      else
        drop
        wordRest inner mark fuel (← character inner mark.isSome d c)

def checkEnd (isDocument : Bool) (d : Draft) : Reader Unit := do
  if d.layer.mode = .sum then fail "Missing '))'"
  else if d.layer.mode ≠ .plain && !isDocument then fail "Unterminated quoted string"
  else if d.layer.opens ≠ 0 then fail "Missing '\x7d'"
  else pure ()

def document (inner : Inner) (doc : Document) : Reader Unit := do
  let d : Draft := { layer :=
    if doc.isFilled then { mode := .double, isDouble := true } else { mode := .single } }
  let mark := some (doc.mark, doc.noTabs)
  let d ← if ← atMark mark then pure d else wordRest inner mark ((← get).rest.length + 1) d
  checkEnd true d
  modify fun s => { s with documents := (doc.number, d.toWord) :: s.documents }

def waitingDocuments (inner : Inner) : Reader Unit := do
  let waiting := (← get).waiting
  modify fun s => { s with waiting := [] }
  waiting.forM (document inner)

/-- The arrow of a redirection, whose first character is this one; it was taken. -/
def arrow (c : Char) : Reader Arrow := do
  if c = '>' then
    if ← take? '>' then return .file .append
    else if ← take? '|' then return .file .overwrite
    else if ← take? '&' then return .same
    else return .file .write
  else if ← take? '<' then return .document (← take? '-')
  else if ← take? '&' then return .same
  else if ← take? '>' then return .file .readAndWrite
  else return .file .read

def wordToken (inner : Inner) : Reader Token := do
  let d ← wordRest inner none ((← get).rest.length + 1) {}
  checkEnd false d
  let digit? : Option (Option Nat) := match d.flushed.parts with
    | [] => some none
    | [.text [c] false] => if c.isDigit then some (some (c.toNat - 48)) else none
    | _ => none
  match (← get).rest, digit?, d.hasQuotes with
  | c :: _, some fd?, false =>
    if c = '<' || c = '>' then
      drop
      let a ← arrow c
      modify fun s => { s with fd := fd?.getD (if c = '>' then 1 else 0), arrow := a }
      return .redirection
    else
      modify fun s => { s with word := d.toWord, isQuoted := false }
      return .word
  | _, _, _ =>
    modify fun s => { s with word := d.toWord, isQuoted := d.hasQuotes }
    return .word

/-- The next token as it is written. `fuel` bounds the characters before it. -/
def rawToken (inner : Inner) : Nat → Reader Token
  | 0 => return .ending
  | fuel + 1 => do
    match ← peek? with
    | none => return .ending
    | some c =>
      match c with
      | ' ' | '\t' =>
        drop
        rawToken inner fuel
      | '#' =>
        modify fun s => { s with rest := s.rest.dropWhile (· ≠ '\n') }
        rawToken inner fuel
      | '\n' =>
        drop
        newLine
        return .lineEnd
      | '&' =>
        drop
        return if ← take? '&' then .both else .background
      | '|' =>
        drop
        return if ← take? '|' then .either else .pipe
      | ';' =>
        drop
        return if ← take? ';' then .armEnd else .semicolon
      | '(' =>
        drop
        return .opening
      | ')' =>
        drop
        return .closing
      | _ => wordToken inner

def anyToken (inner : Inner) : Reader Token := do
  let s ← get
  if s.isBack then
    set { s with isBack := false }
    return s.token
  else
    let t ← rawToken inner (s.rest.length + 2)
    modify fun s => { s with token := t }
    return t

/-- Dropping what is no longer replaced; the answer tells whether the next word is looked up for
it. -/
def endReplacing : Reader Bool := do
  let s ← get
  if s.expanding.isEmpty then return false
  else
    let left := s.rest.length
    set { s with expanding := s.expanding.filter (·.limit ≤ left) }
    return s.expanding.any fun e => left < e.limit && e.goesOn

/-- Going over line ends, with the documents behind them. `fuel` bounds them. -/
def afterLines (inner : Inner) : Nat → Token → Reader Token
  | 0, t => return t
  | fuel + 1, t => do
    if t = .lineEnd then
      waitingDocuments inner
      modify fun s => { s with seesKeywords := false, replaces := false }
      afterLines inner fuel (← anyToken inner)
    else return t

/-- The next token, read as asked for. `fuel` bounds the replacements of words. -/
def tokenAfter (inner : Inner) (lines keywords replaces : Bool) : Nat → Reader Token
  | 0 => return .ending
  | fuel + 1 => do
    let t ← anyToken inner
    let t ← if lines then afterLines inner ((← get).rest.length + 2) t else pure t
    let replaces := (← endReplacing) || replaces
    modify fun s => { s with
      skipsLines := false, seesKeywords := false, replaces := false, isMark := false, token := t }
    let s ← get
    if t ≠ .word || s.isQuoted then return t
    else
      match s.word with
      | [.text cs false] =>
        let text := String.ofList cs
        match if keywords then Token.keywords.lookup text else none with
        | some k =>
          set { s with token := k }
          return k
        | none =>
          let new? := if replaces then s.replacement? text else none
          match new? with
          | none => return t
          | some new =>
            let goesOn := new.endsWith " " || new.endsWith "\t"
            set { s with
              rest := new.toList ++ s.rest
              expanding := ⟨text, s.rest.length, goesOn⟩ :: s.expanding }
            tokenAfter inner lines keywords replaces fuel
      | _ => return t

def token (inner : Inner) : Reader Token := do
  let s ← get
  tokenAfter inner s.skipsLines s.seesKeywords s.replaces 1000

def expect (lines keywords replaces : Bool) : Reader Unit := modify fun s => { s with
  skipsLines := lines, seesKeywords := keywords, replaces := replaces, isMark := false }

end Reader
end LintRepair.Shell
