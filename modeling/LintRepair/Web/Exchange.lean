import LintRepair.Json.Value
import LintRepair.Text.Trim
import LintRepair.Text.Utf8
import LintRepair.Web.Status
import LintRepair.Web.Url

/-!
Requests, replies, and a network with one server on it that answers from a list.
-/
namespace LintRepair.Web
open Text

structure Request where
  method : String
  url : String
  headers : List (String × String)
  body : Json.Value
deriving Repr

/-- A request as a server sees it: what it names behind the server. -/
structure Received where
  method : String
  target : String
  headers : List (String × String)
  body : Json.Value
deriving Repr

structure Reply where
  status : Nat
  body : List UInt8
deriving DecidableEq, Repr

/-- A network on which at most one server can be reached. -/
structure Network where
  /-- How the addresses of the server start; none if there is no server. -/
  origin : Option String := none
  replies : List Reply := []
  received : List Received := []
deriving Repr

/-- A header can hold the text: no control but the tab is in it. -/
def isHeaderText (s : String) : Bool :=
  s.toList.all fun c => c = '\t' || (' ' ≤ c && c ≠ '\x7f')

def noReply : Reply := ⟨500, utf8 "no scripted reply"⟩

def Reply.arrived (r : Reply) : Reply := if isBodiless r.status then ⟨r.status, []⟩ else r

namespace Network

/-- What a request names on the server; none if it can not be sent there. -/
def target? (n : Network) (r : Request) : Option String :=
  if r.headers.all fun h => isHeaderText h.2 then
    n.origin.bind fun origin => (after? origin.toList r.url.toList).bind Web.target?
  else none

/-- Sending a request. The reply is none if it can not be sent or no final reply comes. -/
def send (n : Network) (r : Request) : Option Reply × Network :=
  match n.target? r with
  | none => (none, n)
  | some target =>
    let reply := n.replies.headD noReply
    (if isFinal reply.status then some reply.arrived else none,
      { n with
        replies := n.replies.tail
        received := n.received ++ [⟨r.method, target, r.headers, r.body⟩] })

end Network
end LintRepair.Web
