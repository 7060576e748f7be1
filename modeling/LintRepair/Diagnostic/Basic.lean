/-!
Diagnostics: one coded error as a compiler reports it, its written layout, and a report of several.
-/
namespace LintRepair

structure Diagnostic where
  code : String
  title : String
  location : String
  context : String
  help : Option String := none
deriving DecidableEq, Repr

structure Explanation where
  code : String
  text : String
deriving DecidableEq, Repr

namespace Diagnostic

def render (d : Diagnostic) : String :=
  "error[" ++ d.code ++ "]: " ++ d.title ++ "\n " ++ d.location ++ "\n" ++ d.context ++ "\n" ++
    (match d.help with
      | none => ""
      | some h => "help: " ++ h ++ "\n")

def renderAll (ds : List Diagnostic) : String :=
  "\n".intercalate (ds.map render)

end Diagnostic
end LintRepair
