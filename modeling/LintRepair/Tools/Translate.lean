import LintRepair.Tools.Escape
import LintRepair.Tools.Options

/-!
Changing, dropping and squeezing bytes. Sets of bytes are written as texts with ranges, classes and
repetitions; one set is laid beside the other to say which byte stands for which.
-/
namespace LintRepair.Tools
open LintRepair.System

inductive SetElement where
  | range (first last : Nat)
  | ofClass (name : String)
  | equivalent (c : Nat)
  | repeated (c : Nat) (count : Option Nat)
deriving DecidableEq, Repr

def numbersFrom (a b : Nat) : List Nat := (List.range (b + 1 - a)).map (a + ·)

def byteClasses : List (String × List Nat) :=
  [("alnum", numbersFrom 48 57 ++ numbersFrom 65 90 ++ numbersFrom 97 122),
    ("alpha", numbersFrom 65 90 ++ numbersFrom 97 122), ("blank", [9, 32]),
    ("cntrl", numbersFrom 0 31 ++ [127]), ("digit", numbersFrom 48 57),
    ("graph", numbersFrom 33 126), ("lower", numbersFrom 97 122), ("print", numbersFrom 32 126),
    ("punct", numbersFrom 33 47 ++ numbersFrom 58 64 ++ numbersFrom 91 96 ++ numbersFrom 123 126),
    ("space", numbersFrom 9 13 ++ [32]), ("upper", numbersFrom 65 90),
    ("xdigit", numbersFrom 48 57 ++ numbersFrom 65 70 ++ numbersFrom 97 102)]

/-- A character of a set: its byte, and whether a backslash stood before it. -/
abbrev SetChar := Nat × Bool

/-- The characters of a set with their escapes read, and what is told about them. `fuel` bounds
them. -/
def setChars : Nat → List Char → List SetChar × List String
  | 0, _ => ([], [])
  | _, [] => ([], [])
  | fuel + 1, '\\' :: cs =>
    let goOn := fun (n : Nat) (rest : List Char) =>
      let r := setChars fuel rest
      ((n, true) :: r.1, r.2)
    match cs with
    | [] => ([(92, false)],
        ["warning: an unescaped backslash at end of string is not portable"])
    | c :: rest =>
      if isDigitOf 8 c then
        let digits := (cs.take 3).takeWhile (isDigitOf 8)
        if digitsValue 8 digits > 255 then
          let r := goOn (digitsValue 8 (digits.take 2)) (cs.drop 2)
          (r.1, ("warning: the ambiguous octal escape \\" ++ String.ofList digits ++
            " is being\n\tinterpreted as the 2-byte sequence \\0" ++
            String.ofList (digits.take 2) ++ ", " ++ String.ofList (digits.drop 2)) :: r.2)
        else goOn (digitsValue 8 digits) (cs.drop digits.length)
      else
        match if c = 'e' then none else escapeLetter? c with
        | some d => goOn d.toNat rest
        | none => goOn c.toNat rest
  | fuel + 1, c :: cs =>
    let r := setChars fuel cs
    ((c.toNat, false) :: r.1, r.2)

def SetChar.isSign (c : SetChar) (sign : Char) : Bool := c.1 = sign.toNat && !c.2

def setText (cs : List SetChar) : String := String.ofList (cs.map fun c => Char.ofNat c.1)

def byteText (n : Nat) : String :=
  if 32 ≤ n && n < 127 then String.ofList [Char.ofNat n]
  else String.ofList ('\\' :: octalDigits n)

def closed? (sign : Char) (read : List SetChar) : List SetChar →
    Option (List SetChar × List SetChar)
  | c :: d :: cs =>
    if c.isSign sign && d.isSign ']' then some (read.reverse, cs)
    else closed? sign (c :: read) (d :: cs)
  | _ => none

/-- The character and the count of a repetition behind its bracket, and what follows it; none if
there is no repetition. -/
def repetition? (cs : List SetChar) : Option (Except String (SetElement × List SetChar)) :=
  match cs with
  | c :: star :: more =>
    if !star.isSign '*' then none
    else
      let inner := more.takeWhile fun d => !d.2 && d.1 ≠ 93
      match more.drop inner.length with
      | close :: rest =>
        if !close.isSign ']' then none
        else
          let digits := inner.map fun d => Char.ofNat d.1
          let base := if digits.head? = some '0' then 8 else 10
          if digits.isEmpty then some (.ok (.repeated c.1 none, rest))
          else if digits.all (isDigitOf base) then
            let n := digitsValue base digits
            some (.ok (.repeated c.1 (if n = 0 then none else some n), rest))
          else some (.error ("invalid repeat count " ++ quoted (String.ofList digits) ++
            " in [c*n] construct"))
      | [] => none
  | _ => none

/-- The elements of a set. `fuel` bounds its characters. -/
def setElements : Nat → List SetChar → Except String (List SetElement)
  | 0, _ => .ok []
  | _, [] => .ok []
  | fuel + 1, c :: cs =>
    let goOn := fun (e : SetElement) (rest : List SetChar) => (setElements fuel rest).map (e :: ·)
    let single := fun (_ : Unit) =>
      match cs with
      | dash :: d :: rest =>
        if !dash.isSign '-' then goOn (.range c.1 c.1) cs
        else if d.1 < c.1 then
          .error ("range-endpoints of '" ++ byteText c.1 ++ "-" ++ byteText d.1 ++
            "' are in reverse collating sequence order")
        else goOn (.range c.1 d.1) rest
      | _ => goOn (.range c.1 c.1) cs
    let repeated := fun (otherwise : Unit → Except String (List SetElement)) =>
      match repetition? cs with
      | some (.ok (e, rest)) => goOn e rest
      | some (.error what) => .error what
      | none => otherwise ()
    if !c.isSign '[' || cs.length < 2 then single ()
    else
      match cs with
      | sign :: more =>
        if sign.isSign ':' then
          match closed? ':' [] more with
          | none => repeated single
          | some (name, rest) =>
            let name := setText name
            if name = "" then .error "missing character class name '[::]'"
            else if (byteClasses.lookup name).isSome then goOn (.ofClass name) rest
            else repeated fun _ => .error ("invalid character class " ++ quoted name)
        else if sign.isSign '=' then
          match closed? '=' [] more with
          | none => repeated single
          | some ([], _) => .error "missing equivalence class character '[==]'"
          | some ([d], rest) => goOn (.equivalent d.1) rest
          | some (name, _) => repeated fun _ =>
              .error (setText name ++ ": equivalence class operand must be a single character")
        else repeated single
      | [] => single ()

/-- A byte of a set; a class of letters of one size is noted where it starts, with its length. -/
structure SetByte where
  byte : Nat
  starts : Option (String × Nat) := none

/-- The bytes of an element, a repetition without count being as long as given. -/
def SetElement.bytes (free : Nat) : SetElement → List SetByte
  | .range a b => (numbersFrom a b).map fun n => ⟨n, none⟩
  | .equivalent n => [⟨n, none⟩]
  | .repeated n count => List.replicate (count.getD free) ⟨n, none⟩
  | .ofClass name =>
    match (byteClasses.lookup name).getD [] with
    | [] => []
    | n :: ns =>
      let isCase := name = "upper" || name = "lower"
      ⟨n, if isCase then some (name, ns.length + 1) else none⟩ :: ns.map fun n => ⟨n, none⟩

def setBytes (free : Nat) (es : List SetElement) : List SetByte := es.flatMap (·.bytes free)

def SetElement.isClass : SetElement → Bool
  | .ofClass _ => true
  | _ => false

def SetElement.isCase (e : SetElement) : Bool := e = .ofClass "upper" || e = .ofClass "lower"

def SetElement.isFree : SetElement → Bool
  | .repeated _ none => true
  | _ => false

/-- Which byte stands for which: two sets side by side. A class of letters stands beside a class of
letters. None if it does not. `fuel` bounds the bytes. -/
def pairs? : Nat → List SetByte → List SetByte → Option (List (Nat × Nat))
  | 0, _, _ => some []
  | _, [], _ => some []
  | _, _, [] => some []
  | fuel + 1, a :: as, b :: bs =>
    match a.starts, b.starts with
    | some (from', n), some (goal, m) =>
      let moved := fun (k : Nat) =>
        if from' = goal then k else if goal = "lower" then k + 32 else k - 32
      let source := (byteClasses.lookup from').getD []
      (pairs? fuel (as.drop (n - 1)) (bs.drop (m - 1))).map
        ((source.map fun k => (k, moved k)) ++ ·)
    | none, some _ => none
    | _, none => (pairs? fuel as bs).map ((a.byte, b.byte) :: ·)

/-- How long two sets are side by side: the classes of letters that stand beside each other count
once. -/
def sideLengths : Nat → List SetByte → List SetByte → Nat × Nat
  | 0, _, _ => (0, 0)
  | _, [], bs => (0, bs.length)
  | _, as, [] => (as.length, 0)
  | fuel + 1, a :: as, b :: bs =>
    let r := match a.starts, b.starts with
      | some (_, n), some (_, m) => sideLengths fuel (as.drop (n - 1)) (bs.drop (m - 1))
      | _, _ => sideLengths fuel as bs
    (r.1 + 1, r.2 + 1)

def SetElement.last? : SetElement → Option Nat
  | .range _ b => some b
  | .equivalent n => some n
  | .repeated n _ => some n
  | .ofClass _ => none

structure Change where
  become : List (Nat × Nat) := []
  dropped : List Nat := []
  squeezed : List Nat := []

structure ChangeTables where
  become : Array UInt8
  dropped : Array Bool
  squeezed : Array Bool

/-- The tables of a change; of two bytes for one the last counts. -/
def Change.tables (c : Change) : ChangeTables where
  become := c.become.foldl (fun t p => t.setIfInBounds p.1 (UInt8.ofNat p.2))
    ((Array.range 256).map UInt8.ofNat)
  dropped := c.dropped.foldl (fun t n => t.setIfInBounds n true) (Array.replicate 256 false)
  squeezed := c.squeezed.foldl (fun t n => t.setIfInBounds n true) (Array.replicate 256 false)

/-- Some bytes changed, the last one before them being known. They come in reverse. -/
def ChangeTables.apply (t : ChangeTables) (last : Option UInt8) (done : List UInt8) :
    List UInt8 → List UInt8 × Option UInt8
  | [] => (done, last)
  | b :: bs =>
    if t.dropped.getD b.toNat false then t.apply last done bs
    else
      let c := t.become.getD b.toNat b
      if t.squeezed.getD c.toNat false && last = some c then t.apply last done bs
      else t.apply (some c) (c :: done) bs

def changeInput (i : Invocation) (t : ChangeTables) : Nat → Option UInt8 → Program Nat
  | 0, _ => return 0
  | fuel + 1, last => do
    match ← Program.read 0 65536 with
    | .error e => i.fail 1 ("read error: " ++ e.reason)
    | .ok bytes =>
      if bytes.isEmpty then return 0
      else do
        let (done, last) := t.apply last [] bytes
        i.printOr 1 done.reverse
        changeInput i t fuel last

def complement (ns : List Nat) : List Nat := (List.range 256).filter (!ns.contains ·)

def translation (complements truncates : Bool) (source goal : List SetElement) :
    Except String (List (Nat × Nat)) :=
  let plain := setBytes 0 source
  let sourceBytes : List SetByte :=
    if complements then (complement (plain.map (·.byte))).map fun n => ⟨n, none⟩ else plain
  let bare := setBytes 0 goal
  let goalBytes := setBytes (sourceBytes.length - bare.length) goal
  if (goal.filter SetElement.isFree).length > 1 then
    .error "only one [c*] repeat construct may appear in string2"
  else if goal.any fun e => match e with
      | .equivalent _ => true
      | _ => false then
    .error "[=c=] expressions may not appear in string2 when translating"
  else if goal.any fun e => e.isClass && !e.isCase then
    .error ("when translating, the only character classes that may appear in\n" ++
      "string2 are 'upper' and 'lower'")
  else
    let fuel := sourceBytes.length + goalBytes.length + 1
    let cased := !complements && goal.any SetElement.isClass
    let forget := fun (bs : List SetByte) => bs.map fun b => { b with starts := none }
    let (a, b) := if cased then (sourceBytes, goalBytes)
      else (forget sourceBytes, forget goalBytes)
    let (n, m) := if cased then sideLengths fuel a b else (a.length, b.length)
    match pairs? fuel a b with
    | none => .error "misaligned [:upper:] and/or [:lower:] construct"
    | some _ =>
      let extended : Except String (List SetByte) :=
        if n > m && !truncates then
          match goal.getLast? with
          | none => .error "when not truncating set1, string2 must be non-empty"
          | some e =>
            match e.last? with
            | some c => .ok (b ++ List.replicate (n - m) ⟨c, none⟩)
            | none => .error ("when translating with string1 longer than string2,\n" ++
                "the latter string must not end with a character class")
        else .ok b
      match extended with
      | .error what => .error what
      | .ok b =>
        let isOne := b.length = a.length && b.all fun x => b.head?.all (·.byte = x.byte)
        if complements && source.any SetElement.isClass && !isOne then
          .error ("when translating with complemented character classes,\n" ++
            "string2 must map all characters in the domain to one")
        else .ok ((pairs? (fuel + n) a b).getD [])

def changeOf (s : Sorted) (source : List SetElement) (goal : Option (List SetElement)) :
    Except String Change :=
  let complements := s.has 'c' || s.has 'C'
  let bytes := fun (es : List SetElement) => (setBytes 0 es).map (·.byte)
  let sourceBytes := if complements then complement (bytes source) else bytes source
  if source.any SetElement.isFree then
    .error "the [c*] repeat construct may not appear in string1"
  else
    match goal with
    | none => .ok (if s.has 'd' then { dropped := sourceBytes } else { squeezed := sourceBytes })
    | some goal =>
      if s.has 'd' then
        if goal.any SetElement.isFree then
          .error "the [c*] construct may appear in string2 only when translating"
        else .ok { dropped := sourceBytes, squeezed := bytes goal }
      else
        (translation complements (s.has 't') source goal).map fun become =>
          { become := become, squeezed := if s.has 's' then become.map (·.2) ++ bytes goal else [] }

def trOptions : OptionTable where
  letters := flags "cCdst"
  names := [("complement", .nothing, 'c'), ("delete", .nothing, 'd'),
    ("squeeze-repeats", .nothing, 's'), ("truncate-set1", .nothing, 't'), ("help", .nothing, 'h'),
    ("version", .nothing, 'V')]
  inOrder := true

def readSet (i : Invocation) (text : String) : Program (List SetElement) := do
  let (cs, complaints) := setChars (text.length + 1) text.toList
  complaints.forM fun c => i.complain c
  match setElements (cs.length + 1) cs with
  | .ok es => return es
  | .error what => i.fail 1 what

def tr : Tool := fun i => do
  let s ← i.sorted trOptions 1
  let least := if s.has 'd' = s.has 's' then 2 else 1
  let most := if s.has 'd' && !s.has 's' then 1 else 2
  let refuse := fun (what : String) (hint : Option String) => do
    i.complain what
    hint.forM fun h => Program.say 2 (h ++ "\n")
    i.refer 1
  match s.operands with
  | [] => refuse "missing operand" none
  | source :: more =>
    if more.length + 1 < least then
      refuse ("missing operand after " ++ quoted source)
        (some (if s.has 's' then "Two strings must be given when both deleting and squeezing repeats."
          else "Two strings must be given when translating."))
    else
      match s.operands.drop most with
      | w :: _ => refuse ("extra operand " ++ quoted w) (if s.operands.length = 2 then
          some "Only one string may be given when deleting without squeezing repeats." else none)
      | [] => do
        let a ← readSet i source
        let b ← match more with
          | goal :: _ => do pure (some (← readSet i goal))
          | [] => pure none
        match changeOf s a b with
        | .error what => i.fail 1 what
        | .ok change => changeInput i change.tables roundLimit none

end LintRepair.Tools
