import LintRepair.Reply.Fence
import LintRepair.Text.Utf8

/-!
The replacement source in a reply: the longest usable block, or the whole reply if it has no fence
at all. What is found has text, no line ends at its start, and exactly one line feed at its end.
-/
namespace LintRepair.Reply
open Text

def byteSize (cs : List Char) : Nat := cs.foldl (fun n c => n + c.utf8Size) 0

def longest? (texts : List (List Char)) : Option (List Char) :=
  texts.foldl (fun best t => match best with
    | none => some t
    | some b => if byteSize b ≤ byteSize t then some t else some b) none

def hasTicks : List Char → Bool
  | [] => false
  | c :: cs => (after? ticks (c :: cs)).isSome || hasTicks cs

def isLineEnd (c : Char) : Bool := c = '\r' || c = '\n'

def candidates (reply : List Char) : List (List Char) :=
  ((fences (pieces reply)).filter Fence.isUsable).map Fence.dedented

def offered? (reply : List Char) : Option (List Char) :=
  match longest? (candidates reply) with
  | some body => some (trimEnd (body.dropWhile isLineEnd))
  | none => if hasTicks reply then none else some (trim reply)

def source? (reply : String) : Option String :=
  match offered? reply.toList with
  | none => none
  | some body => if allBlank body then none else some (String.ofList (body ++ ['\n']))

end LintRepair.Reply
