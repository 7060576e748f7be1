/-!
The completion services that can be asked for a repair.
-/
namespace LintRepair

inductive Backend where
  | anthropic
  | openAi
deriving DecidableEq, Repr, Inhabited

namespace Backend

def all : List Backend := [.anthropic, .openAi]

def name : Backend → String
  | .anthropic => "anthropic"
  | .openAi => "openai"

def displayName : Backend → String
  | .anthropic => "Anthropic"
  | .openAi => "OpenAi"

def keyVariable : Backend → String
  | .anthropic => "ANTHROPIC_API_KEY"
  | .openAi => "OPENAI_API_KEY"

def publicUrl : Backend → String
  | .anthropic => "https://api.anthropic.com"
  | .openAi => "https://api.openai.com"

def route : Backend → String
  | .anthropic => "/v1/messages"
  | .openAi => "/v1/chat/completions"

def ofName? (s : String) : Option Backend := all.find? (·.name = s)

theorem ofName?_name (b : Backend) : ofName? b.name = some b := by
  cases b <;> decide

end Backend
end LintRepair
