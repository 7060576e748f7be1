/-!
TOML values. A table remembers how it came about, since that decides what later lines may add to it.
Keys are put in from the top of a document; a key that stands already is never put in again.
-/
namespace LintRepair.Toml

inductive Origin where
  | header
  | implied
  | dotted
  | inlined
deriving DecidableEq, Repr

inductive Value where
  | text (s : String)
  | integer (n : Int)
  | noNumber
  /-- A number with fraction or exponent, and whether it is within the range of such numbers. -/
  | float (inRange : Bool)
  | bool (b : Bool)
  | moment
  | array (items : List Value)
  | table (origin : Origin) (entries : List (String × Value))
  /-- Tables under one header, the last one apart and the ones before it in reverse. -/
  | tables (earlier : List (List (String × Value))) (last : List (String × Value))
deriving Inhabited

abbrev Entries := List (String × Value)

namespace Entries

def replace (es : Entries) (key : String) (v : Value) : Entries :=
  es.map fun e => if e.1 = key then (key, v) else e

/-- Changing the table at the end of a path, with tables made on the way where there is none. A
path of a dotted key leads through no table that has a header, and none leads through values other
than tables or through tables in braces. -/
def enter (dotted : Bool) (f : Origin → Entries → Option Entries) :
    List String → Origin → Entries → Option Entries
  | [], origin, es => f origin es
  | key :: path, _, es =>
    match es.lookup key with
    | none =>
      let origin := if dotted then .dotted else .implied
      (enter dotted f path origin []).map fun child => es ++ [(key, .table origin child)]
    | some (.tables earlier last) =>
      (enter dotted f path .header last).map fun child => es.replace key (.tables earlier child)
    | some (.table origin child) =>
      if origin = .inlined || (dotted && origin = .header) then none
      else (enter dotted f path origin child).map fun child => es.replace key (.table origin child)
    | some _ => none

def add (key : String) (v : Value) (es : Entries) : Option Entries :=
  if (es.lookup key).isSome then none else some (es ++ [(key, v)])

/-- Putting a value under a dotted key: the tables on its way belong to dotted keys alone. -/
def addDotted (path : List String) (key : String) (v : Value) (origin : Origin) (es : Entries) :
    Option Entries :=
  enter true (fun parent es =>
    if decide (parent = .dotted) == path.isEmpty then none else add key v es)
    path origin es

/-- Opening the table of a header. A table that was only implied before is opened so. -/
def openTable (path : List String) (key : String) (es : Entries) : Option Entries :=
  enter false (fun _ es =>
    match es.lookup key with
    | none => some (es ++ [(key, .table .header [])])
    | some (.table .implied child) => some (es.replace key (.table .header child))
    | some _ => none) path .header es

def openNext (path : List String) (key : String) (es : Entries) : Option Entries :=
  enter false (fun _ es =>
    match es.lookup key with
    | none => some (es ++ [(key, .tables [] [])])
    | some (.tables earlier last) => some (es.replace key (.tables (last :: earlier) []))
    | some _ => none) path .header es

end Entries
end LintRepair.Toml
