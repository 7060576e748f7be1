import LintRepair.Agent.Reply
import LintRepair.Agent.Settings
import LintRepair.Prompt
import LintRepair.Reply.Source
import LintRepair.Web.Exchange

/-!
Asking a completion service for a repair: one request with the prompt, one reply, and the source
that the reply offers.
-/
namespace LintRepair

structure Repair where
  raw : String
  source : String
deriving DecidableEq, Repr

inductive RepairError where
  | notSent (url : String)
  | refused (b : Backend) (status : Nat) (body : String)
  | unreadable (b : Backend)
  | noText (b : Backend)
  | noSource
deriving DecidableEq, Repr

def RepairError.layers : RepairError → List Layer
  | .notSent url => [.text ("POST " ++ url), .http]
  | .refused b status body =>
    [.text (b.name ++ " API error (" ++ toString status ++ " " ++ Web.phrase status ++ "): " ++
      body)]
  | .unreadable b => [.text ("parse " ++ b.name ++ " response"), .json]
  | .noText b => [.text (b.name ++ " response contained no text")]
  | .noSource => [.text "agent reply contained no source"]

namespace Settings

/-- The headers of a request: its form, and the key in the way the service wants it. -/
def headers (s : Settings) : List (String × String) :=
  ("content-type", "application/json") ::
    match s.backend with
    | .anthropic => [("x-api-key", s.key), ("anthropic-version", "2023-06-01")]
    | .openAi => [("authorization", "Bearer " ++ s.key)]

/-- The body of a request: one message with the prompt. Only one service is told how many tokens
its reply may have. -/
def body (s : Settings) (prompt : String) : Json.Value :=
  .ofMembers
    (("model", .ofString s.model) ::
      (match s.backend with
        | .anthropic => [("max_tokens", .ofNat s.maxTokens.toNat)]
        | .openAi => []) ++
      [("messages",
        .array [.ofMembers [("role", .ofString "user"), ("content", .ofString prompt)]])])

def request (s : Settings) (prompt : String) : Web.Request :=
  ⟨"POST", s.endpoint, s.headers, s.body prompt⟩

def answer (s : Settings) : Option Web.Reply → Except RepairError String
  | none => .error (.notSent s.endpoint)
  | some reply =>
    if Web.isSuccess reply.status then
      match Agent.replyText? s.backend (lossyText reply.body) with
      | none => .error (.unreadable s.backend)
      | some text => if isBlankText text then .error (.noText s.backend) else .ok text
    else .error (.refused s.backend reply.status (lossyText reply.body))

def repairOf (s : Settings) (reply : Option Web.Reply) : Except RepairError Repair :=
  match s.answer reply with
  | .error e => .error e
  | .ok raw =>
    match Reply.source? raw with
    | none => .error .noSource
    | some source => .ok ⟨raw, source⟩

def ask (s : Settings) (n : Web.Network) (r : RepairRequest) :
    Except RepairError Repair × Web.Network :=
  let exchange := n.send (s.request r.prompt)
  (s.repairOf exchange.1, exchange.2)

end Settings
end LintRepair
