import LintRepair.Diagnostic.Basic
import LintRepair.Json.Pretty
import LintRepair.Json.Reader

/-!
Diagnostics as JSON: an object each, its fields in a fixed order, absent help as null.
-/
namespace LintRepair.Diagnostic
open Json

def toJson (d : Diagnostic) : Value :=
  .ofMembers [("code", .ofString d.code), ("title", .ofString d.title),
    ("location", .ofString d.location), ("context", .ofString d.context),
    ("help", .ofString? d.help)]

def listToJson (ds : List Diagnostic) : Value := .array (ds.map toJson)

def fieldNames : List String := ["code", "title", "location", "context", "help"]

def ofJson? (v : Value) : Option Diagnostic :=
  match v.record? fieldNames with
  | some [some code, some title, some location, some context, help] =>
    match code.string?, title.string?, location.string?, context.string? with
    | some code, some title, some location, some context =>
      match help with
      | none | some .null => some ⟨code, title, location, context, none⟩
      | some h => h.string?.map fun h => ⟨code, title, location, context, some h⟩
    | _, _, _, _ => none
  | _ => none

def listOfJson? (s : String) : Option (List Diagnostic) :=
  (Json.read? s).bind fun v => v.items?.bind fun items => items.mapM ofJson?

def listJsonText (ds : List Diagnostic) : String := (listToJson ds).pretty

end LintRepair.Diagnostic
