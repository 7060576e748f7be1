/-!
JSON values. Numbers keep their spelling. A text is none if its literal holds half of a surrogate
pair, which stands for no character.
-/
namespace LintRepair.Json

abbrev Literal := Option String

/-- A JSON value; the members of an object keep their order and may repeat. -/
inductive Value where
  | null
  | bool (b : Bool)
  | number (spelling : String)
  | text (s : Literal)
  | array (items : List Value)
  | object (members : List (Literal × Value))
deriving Repr, Inhabited

namespace Value

def ofString (s : String) : Value := .text (some s)

def ofNat (n : Nat) : Value := .number (toString n)

def ofString? : Option String → Value
  | none => .null
  | some s => ofString s

def ofMembers (members : List (String × Value)) : Value :=
  .object (members.map fun m => (some m.1, m.2))

def string? : Value → Option String
  | .text s => s
  | _ => none

def items? : Value → Option (List Value)
  | .array items => some items
  | _ => none

def members? : List (Literal × Value) → Option (List (String × Value))
  | [] => some []
  | (none, _) :: _ => none
  | (some k, v) :: ms => (members? ms).map ((k, v) :: ·)

def isSingle (fields : List String) (members : List (String × Value)) : Bool :=
  fields.all fun f => (members.filter (·.1 = f)).length ≤ 1

/-- The fields of a record: by their names in an object that may hold others too, or by their
positions in an array that holds no more. -/
def record? (fields : List String) : Value → Option (List (Option Value))
  | .object ms => (members? ms).bind fun named =>
    if isSingle fields named then some (fields.map fun f => named.lookup f) else none
  | .array items =>
    if items.length ≤ fields.length then
      some ((items.map some) ++ List.replicate (fields.length - items.length) none)
    else none
  | _ => none

end Value
end LintRepair.Json
