import LintRepair.Tools.Escape
import LintRepair.Tools.Format

/-!
Printing words: one after the other with blanks between, or as a format says.
-/
namespace LintRepair.Tools
open LintRepair.System

/-- Escapes in words that are printed one after the other: a zero may stand before octal digits. -/
def echoEscape (cs : List Char) : Escape :=
  match cs with
  | 'c' :: _ => .stop
  | 'x' :: d :: ds =>
    if isDigitOf 16 d then
      let (c, rest) := digitByte 16 2 (d :: ds)
      .char c rest
    else .none
  | '0' :: ds =>
    let (c, rest) := digitByte 8 3 ds
    .char c rest
  | c :: ds =>
    if isDigitOf 8 c then
      let (c, rest) := digitByte 8 3 (c :: ds)
      .char c rest
    else
      match escapeLetter? c with
      | some d => .char d ds
      | none => .none
  | [] => .none

def isEchoOption (w : String) : Bool :=
  match w.toList with
  | '-' :: c :: cs => (c :: cs).all fun c => c = 'n' || c = 'e' || c = 'E'
  | _ => false

/-- Prints its words with blanks between, and with escapes only if asked to. -/
def echo : Tool := fun i => do
  let marks := (i.words.takeWhile isEchoOption).flatMap fun w => w.toList.drop 1
  let line := " ".intercalate (i.words.dropWhile isEchoOption)
  let escapes := (marks.filter fun c => c = 'e' || c = 'E').getLast? = some 'e'
  let (cs, stopped) := if escapes then readEscapes echoEscape line else (line.toList, false)
  i.print (String.ofList (cs ++ if marks.contains 'n' || stopped then [] else ['\n']))
  return 0

inductive Piece where
  | text (cs : List Char)
  | complaint (what : String) (fails : Bool)
deriving DecidableEq, Repr

structure Printed where
  /-- The last one first. -/
  pieces : List Piece := []
  ending : Option (Option String) := none

def Printed.ofText (cs : List Char) : Printed := ⟨[.text cs], none⟩

def Printed.ofFaults (faults : List (String × Bool)) (cs : List Char) : Printed :=
  ⟨.text cs :: (faults.map fun f => Piece.complaint f.1 f.2).reverse, none⟩

inductive FormatEscape where
  | char (cs : List Char) (rest : List Char)
  | stop
  | failed (what : String)

/-- The number of a character of Unicode in writing: ASCII ones of which there is a reason to write
them so are printed, of the others the number. -/
def unicodeEscape (letter : Char) (n : Nat) : Except String (List Char) :=
  let size := if letter = 'u' then 4 else 8
  let ds := paddedDigits 16 size n
  if (n ≤ 0x9F && n ≠ 0x24 && n ≠ 0x40 && n ≠ 0x60) || (0xD800 ≤ n && n ≤ 0xDFFF) then
    .error ("invalid universal character name \\" ++ String.ofList (letter :: ds))
  else if n < 128 then .ok [Char.ofNat n]
  else
    let ds := (paddedDigits 16 4 n).map Char.toUpper
    .ok (if n < 0x10000 then '\\' :: 'u' :: ds
      else '\\' :: 'U' :: (paddedDigits 16 8 n).map Char.toUpper)

/-- An escape of a format; if `zero` one zero may stand before octal digits. -/
def formatEscape (zero : Bool) (cs : List Char) : FormatEscape :=
  let missing := FormatEscape.failed "missing hexadecimal number in escape"
  match cs with
  | 'x' :: ds =>
    if ds.head?.any (isDigitOf 16) then
      let (c, rest) := digitByte 16 2 ds
      .char [c] rest
    else missing
  | 'c' :: _ => .stop
  | '"' :: rest => .char ['"'] rest
  | c :: rest =>
    if isDigitOf 8 c then
      let (c, rest) := digitByte 8 3 (if zero && c = '0' then rest else c :: rest)
      .char [c] rest
    else if c = 'u' || c = 'U' then
      let size := if c = 'u' then 4 else 8
      let digits := (rest.take size).takeWhile (isDigitOf 16)
      if digits.length < size then missing
      else
        match unicodeEscape c (digitsValue 16 digits) with
        | .ok cs => .char cs (rest.drop size)
        | .error e => .failed e
    else
      match escapeLetter? c with
      | some d => .char [d] rest
      | none => .char ['\\', c] rest
  | [] => .char ['\\'] []

/-- A word with the escapes of a format. `fuel` bounds its characters. -/
def escapedWord : Nat → List Char → List Char → Printed
  | 0, done, _ => .ofText done.reverse
  | _, done, [] => .ofText done.reverse
  | fuel + 1, done, '\\' :: cs =>
    match formatEscape true cs with
    | .char cs rest => escapedWord fuel (cs.reverse ++ done) rest
    | .stop => { Printed.ofText done.reverse with ending := some none }
    | .failed what => { Printed.ofText done.reverse with ending := some (some what) }
  | fuel + 1, done, c :: cs => escapedWord fuel (c :: done) cs

def numberFault (word : String) (isThere inRange : Bool) (rest : List Char) :
    List (String × Bool) :=
  if !inRange then [(quoted word ++ ": Numerical result out of range", true)]
  else if rest.isEmpty then []
  else if !isThere then [(quoted word ++ ": expected a numeric value", true)]
  else [(quoted word ++ ": value not completely converted", true)]

/-- The code of the character that a word starts with behind a quotation mark. -/
def charCode? (word : String) : Option (Nat × List (String × Bool)) :=
  match word.toList with
  | q :: c :: rest =>
    if q = '\'' || q = '"' then
      some (c.toNat, if rest.isEmpty then [] else
        [("warning: " ++ String.ofList rest ++
          ": character(s) following character constant have been ignored", false)])
    else none
  | _ => none

def wholeOf (isSigned : Bool) (word : String) : Int × List (String × Bool) :=
  match charCode? word with
  | some (n, faults) => (n, faults)
  | none =>
    let r := scanNumber false word.toList
    let inRange := if isSigned then fits r.value
      else r.value < wordCount && -wordCount < r.value
    let value := if isSigned then clamped r.value else if inRange then r.value else wordCount - 1
    (value, numberFault word r.isThere inRange r.rest)

def realOf (word : String) : Real × List (String × Bool) :=
  match charCode? word with
  | some (n, faults) => (⟨false, .finite n 0⟩, faults)
  | none =>
    match readReal? .extended word.toList with
    | some r => (r.value, numberFault word true r.inRange r.rest)
    | none => (⟨false, .finite 0 0⟩, numberFault word false true word.toList)

def directiveKinds : List Char := "aAcdeEfFgGiosuxX".toList

def Directive.isSound (d : Directive) (hasPrecision : Bool) : Bool :=
  let k := d.kind
  directiveKinds.contains k &&
    !((d.has '\'' || d.has 'I') && "aAceEosxX".toList.contains k) &&
    !(d.has '#' && "cdisu".toList.contains k) && !(d.has '0' && "cs".toList.contains k) &&
    !(hasPrecision && k = 'c')

def Directive.write (d : Directive) (word : String) : Printed :=
  match d.kind with
  | 's' => .ofText (d.text word.toList)
  | 'c' => .ofText (d.blanks [word.toList.headD '\x00'])
  | k =>
    if "aAeEfFgG".toList.contains k then
      let (x, faults) := realOf word
      .ofFaults faults (d.real .extended x)
    else
      let (n, faults) := wholeOf (k = 'd' || k = 'i') word
      .ofFaults faults (d.whole n)

/-- A number in a directive: written there, or the next word for a star. -/
structure Amount where
  value : Option Int
  faults : List (String × Bool) := []
  unusable : Option String := none
  taken : Bool := false
  rest : List Char

def widthLimit : Int := 2147483647

def amount (what : String) (isPrecision : Bool) (word : Option String) (cs : List Char) : Amount :=
  match cs with
  | '*' :: rest =>
    match word with
    | none => { value := some 0, rest := rest }
    | some w =>
      let (n, faults) := wholeOf true w
      let tooLow := !isPrecision && n < -widthLimit - 1
      { value := some n, faults := faults, taken := true, rest := rest
        unusable := if n > widthLimit || tooLow then some ("invalid " ++ what ++ ": " ++ quoted w)
          else none }
  | cs =>
    let digits := cs.takeWhile Char.isDigit
    { value := if digits.isEmpty then none else some (digitsValue 10 digits : Nat)
      rest := cs.drop digits.length }

structure Progress where
  printed : Printed := {}
  words : List String
  used : Bool := false

namespace Progress

def add (p : Progress) (q : Printed) : Progress :=
  { p with printed := ⟨q.pieces ++ p.printed.pieces, q.ending⟩ }

def next (p : Progress) : Progress :=
  { p with words := p.words.tail, used := p.used || !p.words.isEmpty }

end Progress

/-- A directive behind its percent sign: what comes of it, and the format behind it. -/
def directive (p : Progress) (cs : List Char) : Progress × List Char :=
  let isFlag := fun c => "-+ #0'I".toList.contains c
  let flags := cs.takeWhile isFlag
  let w := amount "field width" false p.words.head? (cs.drop flags.length)
  let p := (if w.taken then p.next else p).add
    { Printed.ofFaults w.faults [] with ending := w.unusable.map some }
  if p.printed.ending.isSome then (p, [])
  else
    let (precision, hasPrecision, p, rest) := match w.rest with
      | '.' :: more =>
        let a := amount "precision" true p.words.head? more
        ((some (a.value.getD 0), true,
          (if a.taken then p.next else p).add
            { Printed.ofFaults a.faults [] with ending := a.unusable.map some }, a.rest) :
          Option Int × Bool × Progress × List Char)
      | rest => (none, false, p, rest)
    if p.printed.ending.isSome then (p, [])
    else
      let rest := rest.dropWhile fun c => "lLhjtz".toList.contains c
      let kind := rest.headD '\x00'
      let d : Directive := { flags := flags, kind := kind }
      let d := d.withWidth (w.value.getD 0)
      let d := match precision with
        | some n => d.withPrecision n
        | none => d
      if !d.isSound hasPrecision then
        let written := cs.take (cs.length - rest.length + 1)
        (p.add { ending := some (some ("%" ++ String.ofList written ++
          ": invalid conversion specification")) }, [])
      else ((p.add (d.write (p.words.headD ""))).next, rest.tail)

/-- Going once through a format. `fuel` bounds its characters. Printed characters come in reverse. -/
def formatOnce : Nat → Progress → List Char → Progress
  | 0, p, _ => p
  | _, p, [] => p
  | fuel + 1, p, '%' :: cs =>
    match cs with
    | '%' :: rest => formatOnce fuel (p.add (.ofText ['%'])) rest
    | 'b' :: rest =>
      match p.words with
      | [] => formatOnce fuel p rest
      | w :: _ =>
        let p := (p.add (escapedWord (w.length + 1) [] w.toList)).next
        if p.printed.ending.isSome then p else formatOnce fuel p rest
    | 'q' :: rest =>
      match p.words with
      | [] => formatOnce fuel p rest
      | w :: _ => formatOnce fuel (p.add (.ofText (shellWord w).toList)).next rest
    | cs =>
      let (p, rest) := directive p cs
      if p.printed.ending.isSome then p else formatOnce fuel p rest
  | fuel + 1, p, '\\' :: cs =>
    match formatEscape false cs with
    | .char cs rest => formatOnce fuel (p.add (.ofText cs)) rest
    | .stop => p.add { ending := some none }
    | .failed what => p.add { ending := some (some what) }
  | fuel + 1, p, c :: cs => formatOnce fuel (p.add (.ofText [c])) cs

def leadingText : List Piece → List (List Char) × List Piece
  | .text cs :: ps => let r := leadingText ps; (cs :: r.1, r.2)
  | ps => ([], ps)

/-- Printing and telling pieces in their order. `fuel` bounds them. -/
def Invocation.printPieces (i : Invocation) : Nat → List Piece → Program Unit
  | 0, _ => return
  | _, [] => return
  | fuel + 1, .complaint what _ :: ps => do
    i.complain what
    i.printPieces fuel ps
  | fuel + 1, ps => do
    let (texts, ps) := leadingText ps
    i.print (String.ofList texts.flatten)
    i.printPieces fuel ps

def Piece.isFailure : Piece → Bool
  | .complaint _ fails => fails
  | .text _ => false

def formatAll (i : Invocation) (format : List Char) : Nat → Nat → List String → Program Nat
  | 0, status, _ => return status
  | fuel + 1, status, words => do
    let p := formatOnce (format.length + 1) { words := words } format
    let pieces := p.printed.pieces.reverse
    i.printPieces (pieces.length + 1) pieces
    let status := if pieces.any Piece.isFailure then 1 else status
    match p.printed.ending with
    | some none => return status
    | some (some what) => i.fail 1 what
    | none =>
      match p.words with
      | [] => return status
      | w :: _ =>
        if p.used then formatAll i format fuel status p.words
        else do
          i.complain ("warning: ignoring excess arguments, starting with " ++ quoted w)
          return status

/-- Prints its words as a format says, which is gone through as often as it takes. -/
def printf : Tool := fun i => do
  match if i.words.head? = some "--" then i.words.tail else i.words with
  | [] => do
    i.complain "missing operand"
    i.refer 1
  | format :: words => formatAll i format.toList (words.length + 2) 0 words

end LintRepair.Tools
