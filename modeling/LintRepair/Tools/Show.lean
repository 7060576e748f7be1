import LintRepair.Tools.Number
import LintRepair.Tools.Options

/-!
Showing files: as they are, with marks and line numbers, or only their start.
-/
namespace LintRepair.Tools
open LintRepair.System

structure Marking where
  numbers : Bool := false
  numbersNoBlank : Bool := false
  squeezes : Bool := false
  ends : Bool := false
  tabs : Bool := false
  unseen : Bool := false

def Marking.isPlain (m : Marking) : Bool :=
  !(m.numbers || m.squeezes || m.ends || m.tabs || m.unseen)

/-- Where `cat` stands: how many lines were numbered, how many line ends came last, and whether
other bytes came behind them, and a carriage return that waits for what follows. -/
structure Marker where
  number : Nat := 0
  lineEnds : Nat := 0
  inLine : Bool := false
  waiting : Bool := false

def seen (b : UInt8) : List UInt8 :=
  let low := fun (b : UInt8) =>
    if b < 32 then [94, b + 64] else if b = 127 then [94, 63] else [b]
  if b < 128 then low b else 77 :: 45 :: low (b - 128)

def numberText (n : Nat) : List UInt8 :=
  let ds := (Nat.toDigits 10 n).map fun c => UInt8.ofNat c.toNat
  List.replicate (6 - ds.length) 32 ++ ds ++ [9]

/-- One byte more: what is shown for it, and where `cat` stands then. -/
def Marking.show (m : Marking) (s : Marker) (b : UInt8) : List UInt8 × Marker :=
  let mark := fun (isWanted : Bool) (s : Marker) =>
    if isWanted then (numberText (s.number + 1), { s with number := s.number + 1 }) else ([], s)
  if b = 10 then
    let blank := !s.inLine
    let s := { s with lineEnds := if blank then min (s.lineEnds + 1) 2 else 0, inLine := false }
    if m.squeezes && s.lineEnds ≥ 2 then ([], s)
    else
      let (number, s) := mark (m.numbers && !m.numbersNoBlank && blank) s
      let carriage := if s.waiting then if m.ends then [94, 77] else [13] else []
      (number ++ carriage ++ (if m.ends then [36] else []) ++ [10], { s with waiting := false })
  else
    let carriage := if s.waiting then [13] else []
    let (number, s) := mark (m.numbers && !s.inLine) { s with waiting := false }
    let s := { s with inLine := true }
    if b = 9 then (carriage ++ number ++ (if m.tabs then [94, 73] else [9]), s)
    else if m.unseen then (carriage ++ number ++ seen b, s)
    else if b = 13 && m.ends then (carriage ++ number, { s with waiting := true })
    else (carriage ++ number ++ [b], s)

def Marking.showAll (m : Marking) (s : Marker) (bytes : List UInt8) : List UInt8 × Marker :=
  let (shown, s) := bytes.foldl (fun (shown, s) b =>
    let (more, s) := m.show s b
    (more.reverse ++ shown, s)) ([], s)
  (shown.reverse, s)

def catFrom (i : Invocation) (m : Marking) (name : String) (fd : Nat) :
    Nat → Marker → Program (Bool × Marker)
  | 0, s => return (true, s)
  | fuel + 1, s => do
    match ← Program.read fd 65536 with
    | .error e => do
      i.complain (shellName name ++ ": " ++ e.reason)
      return (false, s)
    | .ok bytes =>
      if bytes.isEmpty then return (true, s)
      else do
        let (shown, s) := if m.isPlain then (bytes, s) else m.showAll s bytes
        i.printOr 1 shown
        catFrom i m name fd fuel s

def feedsItself (input output : Channel) : Bool :=
  let size := fun (c : Channel) => match c.kind with
    | .file n => n
    | _ => 0
  input.file?.isSome && input.file? = output.file? &&
    input.position < (if output.append then size output else output.position)

def catFile (i : Invocation) (m : Marking) (output : Channel) (name : String) (s : Marker) :
    Program (Bool × Marker) := do
  match ← openInput name with
  | .error e => do
    i.complain (shellName name ++ ": " ++ e.reason)
    return (false, s)
  | .ok fd =>
    match ← Program.channel fd with
    | .error e => do
      i.complain (shellName name ++ ": " ++ e.reason)
      return (false, s)
    | .ok input =>
      if feedsItself input output then do
        i.complain (shellName name ++ ": input file is output file")
        closeInput name fd
        return (false, s)
      else do
        let r ← catFrom i m name fd roundLimit s
        closeInput name fd
        return r

def catOptions : OptionTable where
  letters := flags "AbeEnstTuv"
  names := [("number-nonblank", .nothing, 'b'), ("number", .nothing, 'n'),
    ("squeeze-blank", .nothing, 's'), ("show-nonprinting", .nothing, 'v'),
    ("show-ends", .nothing, 'E'), ("show-tabs", .nothing, 'T'), ("show-all", .nothing, 'A'),
    ("help", .nothing, 'h'), ("version", .nothing, 'V')]

def cat : Tool := fun i => do
  let s ← i.sorted catOptions 1
  let m : Marking :=
    { numbers := s.has 'n' || s.has 'b', numbersNoBlank := s.has 'b', squeezes := s.has 's'
      ends := s.has 'E' || s.has 'e' || s.has 'A', tabs := s.has 'T' || s.has 't' || s.has 'A'
      unseen := s.has 'v' || s.has 'e' || s.has 't' || s.has 'A' }
  match ← Program.channel 1 with
  | .error e => i.fail 1 ("standard output: " ++ e.reason)
  | .ok output => do
    let names := if s.operands.isEmpty then ["-"] else s.operands
    let (well, marker) ← names.foldlM (fun (well, marker) name => do
      let (ok, marker) ← catFile i m output name marker
      return (well && ok, marker)) (true, ({} : Marker))
    if marker.waiting then i.printOr 1 [13]
    return if well then 0 else 1

structure Extent where
  bytes : Bool := false
  butLast : Bool := false
  count : Nat := 10
  zeroEnds : Bool := false

/-- How long the first lines of some bytes are, and how many lines are still missing. -/
def linesLength (lineEnd : UInt8) : Nat → Nat → List UInt8 → Nat × Nat
  | 0, taken, _ => (taken, 0)
  | missing, taken, [] => (taken, missing)
  | missing + 1, taken, b :: bs =>
    linesLength lineEnd (if b = lineEnd then missing else missing + 1) (taken + 1) bs

/-- Printing the first lines that a descriptor gives; what was read behind them is taken back. -/
def headLines (i : Invocation) (lineEnd : UInt8) (fd : Nat) :
    Nat → Nat → Program (Except Refusal Unit)
  | 0, _ => return .ok ()
  | _, 0 => return .ok ()
  | fuel + 1, missing + 1 => do
    match ← Program.read fd 8192 with
    | .error e => return .error e
    | .ok bytes =>
      if bytes.isEmpty then return .ok ()
      else
        let (length, missing) := linesLength lineEnd (missing + 1) 0 bytes
        i.printOr 1 (bytes.take length)
        if missing = 0 then
          if length < bytes.length then Program.unread fd (bytes.length - length)
          return .ok ()
        else headLines i lineEnd fd fuel missing

def headBytes (i : Invocation) (fd : Nat) : Nat → Nat → Program (Except Refusal Unit)
  | 0, _ => return .ok ()
  | fuel + 1, missing => do
    if missing = 0 then return .ok ()
    else
      match ← Program.read fd (min missing 65536) with
      | .error e => return .error e
      | .ok bytes =>
        if bytes.isEmpty then return .ok ()
        else
          i.printOr 1 bytes
          headBytes i fd fuel (missing - bytes.length)

/-- Bytes without their last lines; a line that does not end counts. -/
def withoutLines (lineEnd : UInt8) (count : Nat) (bytes : List UInt8) : List UInt8 :=
  match bytes.reverse with
  | [] => []
  | b :: more =>
    if count = 0 then bytes
    else
      let (length, missing) := linesLength lineEnd count 0 more
      if missing = 0 then
        (b :: more).drop length |>.reverse
      else []

def headButLast (i : Invocation) (e : Extent) (fd : Nat) : Program (Except Refusal Unit) := do
  match ← readAll fd roundLimit [] with
  | .error e => return .error e
  | .ok bytes =>
    let lineEnd := if e.zeroEnds then 0 else 10
    i.printOr 1 (if e.bytes then bytes.take (bytes.length - e.count)
      else withoutLines lineEnd e.count bytes)
    return .ok ()

def headFrom (i : Invocation) (e : Extent) (fd : Nat) : Program (Except Refusal Unit) :=
  if e.butLast then headButLast i e fd
  else if e.bytes then headBytes i fd roundLimit e.count
  else headLines i (if e.zeroEnds then 0 else 10) fd roundLimit e.count

/-- What letters behind a number multiply it by: the first one names a power, of a thousand if
another one follows, and of 1024 otherwise. -/
def multiplier? (letters : List Char) : Option Nat :=
  match letters with
  | [] => some 1
  | ['b'] => some 512
  | c :: behind =>
    match ["kK", "mM", "G", "T", "P", "E", "Z", "Y", "R", "Q"].findIdx? (·.toList.contains c) with
    | none => none
    | some n =>
      if behind = [] || behind = ['i', 'B'] then some (Nat.pow 1024 (n + 1))
      else if behind = ['B'] || behind = ['D'] then some (Nat.pow 1000 (n + 1))
      else none

/-- The number of lines or bytes that a word gives; letters alone stand for one of them. If there is
none the answer tells whether the number is too large. -/
def countOf? (w : String) : Except Bool Nat :=
  let start := match w.toList.dropWhile isByteBlank with
    | '+' :: more => more
    | cs => cs
  let digits := start.takeWhile Char.isDigit
  let (n, letters) := if digits.isEmpty then (1, w.toList)
    else (digitsValue 10 digits, start.drop digits.length)
  match if digits.isEmpty && letters.isEmpty then none else multiplier? letters with
  | some m => if n * m ≥ wordCount.toNat then .error true else .ok (n * m)
  | none => .error false

/-- What `head` is asked for: how much, and whether names come before files. -/
structure HeadRequest where
  extent : Extent := {}
  named : Option Bool := none

/-- The request with one option more. If something is wrong with it the answer tells also whether the
manual is pointed to. -/
def HeadRequest.with (q : HeadRequest) (o : Given) : Except (String × Bool) HeadRequest :=
  let count := fun (bytes : Bool) =>
    let (butLast, w) := match o.2.toList with
      | '-' :: more => (true, String.ofList more)
      | _ => (false, o.2)
    match countOf? w with
    | .ok n => .ok { q with extent := { q.extent with bytes, butLast, count := n } }
    | .error tooLarge =>
      .error ("invalid number of " ++ (if bytes then "bytes" else "lines") ++ ": " ++ quoted w ++
        (if tooLarge then ": Value too large for defined data type" else ""), false)
  match o.1 with
  | 'c' => count true
  | 'n' => count false
  | 'q' => .ok { q with named := some false }
  | 'v' => .ok { q with named := some true }
  | 'z' => .ok { q with extent := { q.extent with zeroEnds := true } }
  | c =>
    if c.isDigit then .error ("invalid trailing option -- " ++ String.ofList [c], true) else .ok q

def headOptions : OptionTable where
  letters := [('c', .something), ('n', .something)] ++ flags "qvz0123456789"
  names := [("bytes", .something, 'c'), ("lines", .something, 'n'), ("quiet", .nothing, 'q'),
    ("silent", .nothing, 'q'), ("verbose", .nothing, 'v'), ("zero-terminated", .nothing, 'z'),
    ("help", .nothing, 'h'), ("version", .nothing, 'V')]

/-- The words of `head` with a number behind a dash written as an option; none if letters behind it
mean nothing. -/
def headWords (words : List String) : Except String (List String) :=
  match words with
  | [] => .ok []
  | w :: ws =>
    match w.toList with
    | '-' :: d :: ds =>
      if !d.isDigit then .ok words
      else
        let digits := (d :: ds).takeWhile Char.isDigit
        let marks := (d :: ds).drop digits.length
        match marks.find? fun c => !"bckmlqvz".toList.contains c with
        | some c => .error ("invalid trailing option -- " ++ String.ofList [c])
        | none =>
          let unit := (marks.filter fun c => "bkm".toList.contains c).getLast?
          let bytes := unit.isSome || ((marks.filter fun c => c = 'c' || c = 'l').getLast? = some 'c')
          let others := (marks.filter fun c => "qvz".toList.contains c).map fun c =>
            String.ofList ['-', c]
          .ok ((if bytes then "-c" else "-n") :: String.ofList (digits ++ unit.toList) ::
            others ++ ws)
    | _ => .ok words

def headFile (i : Invocation) (e : Extent) (named isFirst : Bool) (name : String) :
    Program (Bool × Bool) := do
  match ← openInput name with
  | .error e => do
    i.complain ("cannot open " ++ shellQuoted name ++ " for reading: " ++ e.reason)
    return (false, isFirst)
  | .ok fd => do
    let shown := if name = "-" then "standard input" else name
    if named then
      i.print ((if isFirst then "" else "\n") ++ "==> " ++ shown ++ " <==\n")
    let r ← headFrom i e fd
    closeInput name fd
    match r with
    | .ok () => return (true, isFirst && !named)
    | .error e => do
      i.complain ("error reading " ++ shellQuoted shown ++ ": " ++ e.reason)
      return (false, isFirst && !named)

def head : Tool := fun i => do
  match headWords i.words with
  | .error what => do
    i.complain what
    i.refer 1
  | .ok words => do
    let s := sortWords headOptions (words.length + 1) words
    match s.options.foldlM HeadRequest.with ({} : HeadRequest) with
    | .error (what, refers) => do
      i.complain what
      if refers then i.refer 1 else .exit 1
    | .ok q => do
      match s.fault with
      | some what => do
        i.complain what
        i.refer 1
      | none => do
        let names := if s.operands.isEmpty then ["-"] else s.operands
        let named := q.named.getD (s.operands.length > 1)
        let (well, _) ← names.foldlM (fun (well, isFirst) name => do
          let (ok, isFirst) ← headFile i q.extent named isFirst name
          return (well && ok, isFirst)) (true, true)
        return if well then 0 else 1

end LintRepair.Tools
