/-!
What is told about a failure: its layers from the outside in. Some innermost layers are the wording
of a reader or a connection that this library does not fix.
-/
namespace LintRepair

inductive Layer where
  | text (s : String)
  | toml
  | json
  | http
deriving DecidableEq, Repr

def Layer.message : Layer → String
  | .text s => s
  | .toml => "the text does not hold a configuration"
  | .json => "the text does not hold a reply"
  | .http => "error sending request"

def Layer.chain (layers : List Layer) : String := ": ".intercalate (layers.map Layer.message)

end LintRepair
