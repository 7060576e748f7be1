import LintRepair.Config.Error
import LintRepair.Text.Quoted
import LintRepair.Text.Trim

/-!
The settings with which a completion service is asked, and the key it is asked with.
-/
namespace LintRepair

structure Settings where
  backend : Backend
  model : String
  key : String
  maxTokens : UInt32
  /-- How long a reply may take, in milliseconds. -/
  timeout : Nat
  baseUrl : Option String := none
deriving DecidableEq, Repr

/-- The key to a service, looked up in an environment. A blank key is no key. -/
def resolveKey (b : Backend) (lookup : String → Option String) : Except SetupError String :=
  match lookup b.keyVariable with
  | none => .error (.missingKey b)
  | some key => if isBlankText key then .error (.missingKey b) else .ok key

namespace Settings

def fault? (s : Settings) : Option SetupError :=
  if isBlankText s.model then some (.invalid .noAgentModel)
  else if isBlankText s.key then some (.missingKey s.backend)
  else if s.maxTokens = 0 then some (.invalid .noAgentTokens)
  else if s.timeout = 0 then some (.invalid .noRequestTimeout)
  else none

def validate (s : Settings) : Except SetupError Unit :=
  match s.fault? with
  | none => .ok ()
  | some e => .error e

def endpoint (s : Settings) : String :=
  String.ofList (Text.dropEnd (· = '/') (s.baseUrl.getD s.backend.publicUrl).toList) ++
    s.backend.route

def display (s : Settings) : String :=
  "AgentConfig \x7b backend: " ++ s.backend.displayName ++ ", model: " ++ quoted s.model ++
    ", api_key: \"<redacted>\", max_tokens: " ++ toString s.maxTokens.toNat ++ ", timeout: " ++
    spanText s.timeout ++ ", base_url: " ++
    (match s.baseUrl with
      | none => "None"
      | some url => "Some(" ++ quoted url ++ ")") ++ " \x7d"

end Settings
end LintRepair
