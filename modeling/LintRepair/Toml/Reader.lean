import LintRepair.Toml.Quotation

/-!
Reading TOML: statements one after the other, each on lines of its own, put together into a table.
Nesting of brackets and braces is limited, and the readers recurse on what is left of that limit.
-/
namespace LintRepair.Toml
open Text

def afterFiller? (inComment : Bool) : List Char → Option (List Char)
  | [] => some []
  | '\r' :: '\n' :: cs => afterFiller? false cs
  | c :: cs =>
    if c = '\n' then afterFiller? false cs
    else if inComment then if isLineChar c then afterFiller? true cs else none
    else if isBlank c then afterFiller? false cs
    else if c = '#' then afterFiller? true cs
    else some (c :: cs)

def afterLine? (cs : List Char) : Option (List Char) :=
  match cs.dropWhile isBlank with
  | [] => some []
  | '\n' :: rest => some rest
  | '\r' :: '\n' :: rest => some rest
  | '#' :: rest => afterFiller? true rest
  | _ => none

def isKeyChar (c : Char) : Bool := c.isAlphanum || c = '_' || c = '-'

def key? : List Char → Option (String × List Char)
  | '"' :: cs => basic? [] cs
  | '\'' :: cs => literal? cs
  | cs =>
    if (cs.takeWhile isKeyChar).isEmpty then none
    else some (String.ofList (cs.takeWhile isKeyChar), cs.dropWhile isKeyChar)

/-- The parts of a dotted key in reverse behind those read so far, and what follows them. -/
def keyParts? (read : List String) (cs : List Char) : Option (List String × List Char) :=
  match key? cs with
  | none => none
  | some (k, rest) =>
    match rest.dropWhile isBlank with
    | '.' :: more =>
      if _h : (more.dropWhile isBlank).length < cs.length then
        keyParts? (k :: read) (more.dropWhile isBlank)
      else none
    | rest => some (k :: read, rest)
termination_by cs.length

/-- How deep brackets and braces may nest, and how many parts a dotted key may have. -/
def depthLimit : Nat := 80

/-- The parts of a dotted key in reverse, and what follows it. -/
def keys? (cs : List Char) : Option (List String × List Char) :=
  (keyParts? [] cs).filter fun r => r.1.length ≤ depthLimit

/-- Elements between commas up to a closing bracket, and what follows it. A comma may stand behind
the last one. The elements read so far come in reverse. -/
def separated? {α : Type} (element? : List Char → Option (α × List Char)) (close : Char)
    (read : List α) (cs : List Char) : Option (List α × List Char) :=
  match afterFiller? false cs with
  | none | some [] => none
  | some (c :: rest) =>
    if c = close then some (read.reverse, rest)
    else
      match element? (c :: rest) with
      | none => none
      | some (a, after) =>
        match afterFiller? false after with
        | some (d :: more) =>
          if d = close then some ((a :: read).reverse, more)
          else if d = ',' then
            if _h : more.length < cs.length then separated? element? close (a :: read) more
            else none
          else none
        | _ => none
termination_by cs.length

/-- A key with its value: the parts of the key in reverse. -/
structure Pair where
  keys : List String
  value : Value

/-- What follows the blanks beside an equals sign. In braces line ends and comments may be there
too. -/
def afterGap? (inBraces : Bool) (cs : List Char) : Option (List Char) :=
  if inBraces then afterFiller? false cs else some (cs.dropWhile isBlank)

def pair? (inBraces : Bool) (value? : List Char → Option (Value × List Char)) (cs : List Char) :
    Option (Pair × List Char) :=
  match keys? cs with
  | none => none
  | some (ks, rest) =>
    match afterGap? inBraces rest with
    | some ('=' :: rest) =>
      (afterGap? inBraces rest).bind fun rest => (value? rest).map fun r => (⟨ks, r.1⟩, r.2)
    | _ => none

def Entries.addPair (p : Pair) (origin : Origin) (es : Entries) : Option Entries :=
  match p.keys with
  | [] => none
  | key :: above => es.addDotted above.reverse key p.value origin

def Entries.ofPairs (ps : List Pair) : Option Entries :=
  ps.foldlM (fun es p => Entries.addPair p .inlined es) []

def value? (depth : Nat) (cs : List Char) : Option (Value × List Char) :=
  match depth, cs with
  | depth + 1, '[' :: rest =>
    (separated? (value? depth) ']' [] rest).map fun r => (.array r.1, r.2)
  | depth + 1, '\x7b' :: rest =>
    (separated? (pair? true (value? depth)) '\x7d' [] rest).bind fun r =>
      (Entries.ofPairs r.1).map fun es => (.table .inlined es, r.2)
  | _, cs =>
    if cs.head? = some '"' || cs.head? = some '\'' then
      (quotation? cs).map fun r => (.text r.1, r.2)
    else (scalar? (word cs).1).map fun v => (v, (word cs).2)

/-- A statement of a document. The parts of a key are in reverse. -/
inductive Statement where
  | pair (p : Pair)
  | header (keys : List String)
  | nextHeader (keys : List String)

def statement? : List Char → Option (Statement × List Char)
  | '[' :: '[' :: cs =>
    match keys? (cs.dropWhile isBlank) with
    | some (ks, ']' :: ']' :: rest) => some (.nextHeader ks, rest)
    | _ => none
  | '[' :: cs =>
    match keys? (cs.dropWhile isBlank) with
    | some (ks, ']' :: rest) => some (.header ks, rest)
    | _ => none
  | cs => (pair? false (value? depthLimit) cs).map fun r => (.pair r.1, r.2)

/-- The statements of a text, behind those read so far in reverse. -/
def statementsAfter (read : List Statement) (cs : List Char) : Option (List Statement) :=
  match afterFiller? false cs with
  | none => none
  | some [] => some read.reverse
  | some (c :: rest) =>
    match statement? (c :: rest) with
    | none => none
    | some (s, after) =>
      match afterLine? after with
      | none => none
      | some more =>
        if _h : more.length < cs.length then statementsAfter (s :: read) more else none
termination_by cs.length

/-- The statements of a text. A byte order mark at its start does not count. -/
def statements? (cs : List Char) : Option (List Statement) :=
  statementsAfter [] (match cs with
    | '\uFEFF' :: rest => rest
    | cs => cs)

/-- A document in the making: its table, and the path of the table that pairs go into. -/
structure Draft where
  entries : Entries := []
  current : List String := []

def Draft.add (d : Draft) : Statement → Option Draft
  | .pair p =>
    (Entries.enter false (fun origin es => Entries.addPair p origin es) d.current .header
      d.entries).map fun es => { d with entries := es }
  | .header [] | .nextHeader [] => none
  | .header (key :: above) =>
    (d.entries.openTable above.reverse key).map fun es => ⟨es, (key :: above).reverse⟩
  | .nextHeader (key :: above) =>
    (d.entries.openNext above.reverse key).map fun es => ⟨es, (key :: above).reverse⟩

def read? (s : String) : Option Entries :=
  (statements? s.toList).bind fun ss => (ss.foldlM Draft.add {}).map Draft.entries

end LintRepair.Toml
