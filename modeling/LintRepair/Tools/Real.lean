import LintRepair.Tools.Number

/-!
Numbers with a fraction, in binary with a bounded number of digits. A number is read exactly and
rounded once to the nearest that the format holds, a half to the even neighbour; from there it is
written exactly, or rounded the same way to the digits that are asked for.
-/
namespace LintRepair.Tools

/-- A binary format: how many digits a number has, and the least and the greatest exponent of its
last digit. -/
structure BinaryFormat where
  digits : Nat
  least : Int
  greatest : Int
deriving DecidableEq, Repr

def BinaryFormat.double : BinaryFormat := ⟨53, -1074, 971⟩

def BinaryFormat.extended : BinaryFormat := ⟨64, -16445, 16320⟩

/-- A number without its sign: a whole number times a power of two. -/
inductive Magnitude where
  | finite (m : Nat) (e : Int)
  | infinite
  | notANumber
deriving DecidableEq, Repr

structure Real where
  isNegative : Bool := false
  magnitude : Magnitude
deriving DecidableEq, Repr

def power (base : Nat) (n : Nat) : Nat := base.pow n

/-- The quotient of two numbers, rounded to the nearest one, a half to the even one. -/
def roundedQuotient (n d : Nat) : Nat :=
  let q := n / d
  let r := n % d
  if 2 * r > d || (2 * r = d && q % 2 = 1) then q + 1 else q

/-- A quotient scaled by a power: `n / (d * base ^ e)`, rounded. -/
def scaledQuotient (base n d : Nat) (e : Int) : Nat :=
  if e ≥ 0 then roundedQuotient n (d * power base e.toNat)
  else roundedQuotient (n * power base (-e).toNat) d

def BinaryFormat.nearest (f : BinaryFormat) (n d : Nat) : Magnitude :=
  if n = 0 then .finite 0 0
  else
    let rough : Int := (n.log2 : Int) - d.log2 - f.digits
    let e := max f.least rough
    let e := if scaledQuotient 2 n d e ≥ power 2 f.digits then max f.least (e + 1) else e
    let m := scaledQuotient 2 n d e
    let (m, e) := if m ≥ power 2 f.digits then (m / 2, e + 1) else (m, e)
    if e > f.greatest then .infinite else .finite m e

/-- A number that was read, with what follows it, and whether the format holds something like it. -/
structure ReadReal where
  value : Real
  rest : List Char
  inRange : Bool := true

/-- The digits at the start of a text with a point in them: the number they write without the point,
how many are behind the point, and what follows. None if there is no digit. -/
def pointedDigits? (base : Nat) (cs : List Char) : Option (Nat × Nat × List Char) :=
  let whole := cs.takeWhile (isDigitOf base)
  let (fraction, rest) := match cs.drop whole.length with
    | '.' :: more => (more.takeWhile (isDigitOf base), more.dropWhile (isDigitOf base))
    | more => ([], more)
  if whole.isEmpty && fraction.isEmpty then none
  else some (digitsValue base (whole ++ fraction), fraction.length, rest)

/-- The exponent at the start of a text behind one of two letters, and what follows it. -/
def exponentIn (small large : Char) (cs : List Char) : Int × List Char :=
  match cs with
  | c :: more =>
    if c = small || c = large then
      let (isNegative, ds) := match more with
        | '-' :: ds => (true, ds)
        | '+' :: ds => (false, ds)
        | ds => (false, ds)
      let digits := ds.takeWhile Char.isDigit
      if digits.isEmpty then (0, cs)
      else
        let n : Int := min (digitsValue 10 digits) 100000
        (if isNegative then -n else n, ds.drop digits.length)
    else (0, cs)
  | [] => (0, [])

/-- A text that starts with a word, in letters of any size, and what follows the word. -/
def afterWord? (word : String) (cs : List Char) : Option (List Char) :=
  if (cs.take word.length).map Char.toLower = word.toList then some (cs.drop word.length) else none

def quotientOf (m : Nat) (e : Int) : Nat × Nat :=
  if e ≥ 0 then (m <<< e.toNat, 1) else (m, 1 <<< (-e).toNat)

def isExactly (n d m : Nat) (e : Int) : Bool :=
  let (a, b) := quotientOf m e
  a * d = n * b

/-- The format holds a number like a quotient: neither too large nor too small to count all its
digits, unless those that it has are all there are. -/
def BinaryFormat.holds (f : BinaryFormat) (n d : Nat) : Magnitude → Bool
  | .finite m e => n = 0 || m ≥ power 2 (f.digits - 1) || isExactly n d m e
  | _ => false

def readReal? (f : BinaryFormat) (cs : List Char) : Option ReadReal :=
  let start := cs.dropWhile isByteBlank
  let (isNegative, start) := match start with
    | '-' :: more => (true, more)
    | '+' :: more => (false, more)
    | start => (false, start)
  let found := fun (m : Magnitude) (rest : List Char) (inRange : Bool) =>
    some (ReadReal.mk ⟨isNegative, m⟩ rest inRange)
  let ofQuotient := fun (n d : Nat) (rest : List Char) =>
    let m := f.nearest n d
    found m rest (f.holds n d m)
  match afterWord? "infinity" start, afterWord? "inf" start, afterWord? "nan" start with
  | some rest, _, _ => found .infinite rest true
  | none, some rest, _ => found .infinite rest true
  | none, none, some rest => found .notANumber rest true
  | none, none, none =>
    let hexadecimal := match start with
      | '0' :: x :: more => if x = 'x' || x = 'X' then pointedDigits? 16 more else none
      | _ => none
    match hexadecimal with
    | some (n, places, rest) =>
      let (e, rest) := exponentIn 'p' 'P' rest
      let e := e - 4 * places
      if e ≥ 0 then
        if e > 20000 && n ≠ 0 then found .infinite rest false else ofQuotient (n <<< e.toNat) 1 rest
      else if e < -40000 then found (.finite 0 0) rest (n = 0)
      else ofQuotient n (1 <<< (-e).toNat) rest
    | none =>
      match pointedDigits? 10 start with
      | none => none
      | some (n, places, rest) =>
        let (e, rest) := exponentIn 'e' 'E' rest
        let e := e - places
        if e ≥ 0 then
          if e > 6000 && n ≠ 0 then found .infinite rest false
          else ofQuotient (if n = 0 then 0 else n * power 10 e.toNat) 1 rest
        else if e < -12000 then found (.finite 0 0) rest (n = 0)
        else ofQuotient n (power 10 (-e).toNat) rest

def paddedDigits (base least n : Nat) : List Char :=
  let ds := Nat.toDigits base n
  List.replicate (least - ds.length) '0' ++ ds

def withPoint (places : Nat) (keepsPoint : Bool) (digits : List Char) : List Char :=
  let whole := digits.take (digits.length - places)
  if places = 0 then if keepsPoint then whole ++ ['.'] else whole
  else whole ++ '.' :: digits.drop (digits.length - places)

def fixed (places : Nat) (keepsPoint : Bool) (m : Nat) (e : Int) : List Char :=
  let (n, d) := quotientOf m e
  withPoint places keepsPoint
    (paddedDigits 10 (places + 1) (roundedQuotient (n * power 10 places) d))

/-- The greatest power of ten that is not greater than a quotient, of two candidates. -/
def decimalExponent (n d : Nat) : Int :=
  let atLeast := fun (x : Int) =>
    if x ≥ 0 then n ≥ d * power 10 x.toNat else n * power 10 (-x).toNat ≥ d
  let rough : Int := ((n.log2 : Int) - d.log2) * 30103 / 100000
  (([3, 2, 1, 0, -1, -2] : List Int).map (rough + ·)).find? atLeast |>.getD (rough - 3)

def scientificDigits (places : Nat) (m : Nat) (e : Int) : List Char × Int :=
  if m = 0 then (List.replicate (places + 1) '0', 0)
  else
    let (n, d) := quotientOf m e
    let x := decimalExponent n d
    let r := scaledQuotient 10 n d (x - places)
    if r ≥ power 10 (places + 1) then (Nat.toDigits 10 (r / 10), x + 1) else (Nat.toDigits 10 r, x)

def scientificText (keepsPoint : Bool) (digits : List Char) (x : Int) : List Char :=
  withPoint (digits.length - 1) keepsPoint digits ++
    'e' :: (if x < 0 then '-' else '+') :: paddedDigits 10 2 x.natAbs

def withoutZeros (digits : List Char) : List Char :=
  if digits.contains '.' then
    ((digits.reverse.dropWhile (· = '0')).dropWhile (· = '.')).reverse
  else digits

def general (counting : Nat) (keepsZeros : Bool) (m : Nat) (e : Int) : List Char :=
  let p := max counting 1
  let (digits, x) := scientificDigits (p - 1) m e
  if x < -4 || x ≥ p then
    if keepsZeros then scientificText true digits x
    else
      let short := match digits with
        | [] => []
        | d :: ds => d :: (ds.reverse.dropWhile (· = '0')).reverse
      scientificText false short x
  else
    let text := fixed (p - 1 - x).toNat keepsZeros m e
    if keepsZeros then text else withoutZeros text

/-- A number in base sixteen with the exponent of two behind it. The first digit has as many bits as
are left over by digits of four; `places` digits follow, or as many as count. -/
def hexadecimal (f : BinaryFormat) (places : Option Nat) (keepsPoint : Bool) (m : Nat) (e : Int) :
    List Char :=
  let behind := (f.digits - 1) / 4
  let (m, x) :=
    if m = 0 then (0, (0 : Int))
    else
      let lift := f.digits - 1 - m.log2
      (m <<< lift, e - lift + 4 * behind)
  let digits := paddedDigits 16 (behind + 1) m
  let digits := match places with
    | none => digits.take 1 ++ ((digits.drop 1).reverse.dropWhile (· = '0')).reverse
    | some p =>
      if p ≥ behind then digits ++ List.replicate (p - behind) '0'
      else paddedDigits 16 (p + 1) (roundedQuotient m (power 16 (behind - p)))
  ['0', 'x'] ++ withPoint (digits.length - 1) keepsPoint digits ++
    'p' :: (if x < 0 then '-' else '+') :: Nat.toDigits 10 x.natAbs

end LintRepair.Tools
