/-!
What can go wrong with a file, in the words of the operating system.
-/
namespace LintRepair

inductive FileError where
  | notFound
  | notDirectory
  | isDirectory
  | alreadyExists
  | noPermission
  | noSpace
  | nameTooLong
  | listTooLong
  | badName
  | notText
deriving DecidableEq, Repr

def FileError.message : FileError → String
  | .notFound => "No such file or directory (os error 2)"
  | .notDirectory => "Not a directory (os error 20)"
  | .isDirectory => "Is a directory (os error 21)"
  | .alreadyExists => "File exists (os error 17)"
  | .noPermission => "Permission denied (os error 13)"
  | .noSpace => "No space left on device (os error 28)"
  | .nameTooLong => "File name too long (os error 36)"
  | .listTooLong => "Argument list too long (os error 7)"
  | .badName => "file name contained an unexpected NUL byte"
  | .notText => "stream did not contain valid UTF-8"

end LintRepair
