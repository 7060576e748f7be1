import LintRepair.Agent.Backend
import LintRepair.Json.Reader

/-!
The text in a service's reply. One service answers with content blocks, of which those of the kind
`text` count; the other with choices, of which the first counts. Fields of other names count for
nothing. Every record may stand as an object or as an array of its fields.
-/
namespace LintRepair.Agent
open Json

/-- An optional text: a field that is absent or null has none. -/
def optionalText? : Option Value → Option (Option String)
  | none => some none
  | some .null => some none
  | some v => v.string?.map some

structure Block where
  kind : String
  text : Option String
deriving DecidableEq, Repr

def Block.ofJson? (v : Value) : Option Block :=
  match v.record? ["type", "text"] with
  | some [some kind, text] => kind.string?.bind fun k => (optionalText? text).map fun t => ⟨k, t⟩
  | _ => none

def blocks? (v : Value) : Option (List Block) :=
  match v.record? ["content"] with
  | some [some content] => content.items?.bind fun items => items.mapM Block.ofJson?
  | _ => none

def blocksText (bs : List Block) : String :=
  String.join ((bs.filter (·.kind = "text")).filterMap (·.text))

def choiceContent? (v : Value) : Option (Option String) :=
  match v.record? ["message"] with
  | some [some message] =>
    match message.record? ["content"] with
    | some [content] => optionalText? content
    | _ => none
  | _ => none

def choices? (v : Value) : Option (List (Option String)) :=
  match v.record? ["choices"] with
  | some [some choices] => choices.items?.bind fun items => items.mapM choiceContent?
  | _ => none

def choicesText (cs : List (Option String)) : String := (cs.head?.join).getD ""

/-- The text of a reply, if it is one of the service. It may be blank. -/
def replyText? (b : Backend) (body : String) : Option String :=
  (Json.read? body).bind fun v =>
    match b with
    | .anthropic => (blocks? v).map blocksText
    | .openAi => (choices? v).map choicesText

end LintRepair.Agent
