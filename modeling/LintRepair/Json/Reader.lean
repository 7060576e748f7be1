import LintRepair.Json.Token

/-!
JSON values out of tokens. The reader keeps the arrays and objects that are still open on a stack,
so nesting may have any depth, and takes each token once.
-/
namespace LintRepair.Json

/-- An array or object that is still open; what it holds so far comes in reverse. -/
inductive Open where
  | array (items : List Value)
  | object (members : List (Literal × Value)) (key : Literal)
deriving Repr

inductive Expected where
  | value
  | item
  | key (members : List (Literal × Value))
  | member
  | colon (members : List (Literal × Value)) (key : Literal)
  | more (v : Value)
deriving Repr

structure Reading where
  stack : List Open
  expected : Expected
deriving Repr

def Reading.begin? (stack : List Open) : Token → Option Reading
  | .openArray => some ⟨stack, .item⟩
  | .openObject => some ⟨stack, .member⟩
  | .null => some ⟨stack, .more .null⟩
  | .bool b => some ⟨stack, .more (.bool b)⟩
  | .number n => some ⟨stack, .more (.number n)⟩
  | .text s => some ⟨stack, .more (.text s)⟩
  | _ => none

def Reading.goOn? (stack : List Open) (v : Value) : Token → Option Reading
  | .comma =>
    match stack with
    | .array items :: outer => some ⟨.array (v :: items) :: outer, .value⟩
    | .object ms k :: outer => some ⟨outer, .key ((k, v) :: ms)⟩
    | [] => none
  | .closeArray =>
    match stack with
    | .array items :: outer => some ⟨outer, .more (.array (v :: items).reverse)⟩
    | _ => none
  | .closeObject =>
    match stack with
    | .object ms k :: outer => some ⟨outer, .more (.object ((k, v) :: ms).reverse)⟩
    | _ => none
  | _ => none

def Reading.step? (r : Reading) (t : Token) : Option Reading :=
  match r.expected, t with
  | .value, t => begin? r.stack t
  | .item, .closeArray => some ⟨r.stack, .more (.array [])⟩
  | .item, t => begin? (.array [] :: r.stack) t
  | .key ms, .text k => some ⟨r.stack, .colon ms k⟩
  | .member, .text k => some ⟨r.stack, .colon [] k⟩
  | .member, .closeObject => some ⟨r.stack, .more (.object [])⟩
  | .colon ms k, .colon => some ⟨.object ms k :: r.stack, .value⟩
  | .more v, t => goOn? r.stack v t
  | _, _ => none

def Reading.run? (r : Reading) : List Token → Option Reading
  | [] => some r
  | t :: ts => (r.step? t).bind (run? · ts)

def Reading.value? : Reading → Option Value
  | ⟨[], .more v⟩ => some v
  | _ => none

def read? (s : String) : Option Value :=
  (tokens? s.toList).bind fun ts => (Reading.run? ⟨[], .value⟩ ts).bind Reading.value?

end LintRepair.Json
