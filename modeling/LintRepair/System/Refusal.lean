import LintRepair.Files.Error

/-!
Why the system does not do what a process asks for.
-/
namespace LintRepair.System

inductive Refusal where
  | file (e : FileError)
  | badDescriptor
  | brokenPipe
  | noProcess
  | noChild
  | noDevice
  | invalid
  | notEmpty
  | noSeek
  | interrupted
deriving DecidableEq, Repr

def fileReason : FileError → String
  | .notFound => "No such file or directory"
  | .notDirectory => "Not a directory"
  | .isDirectory => "Is a directory"
  | .alreadyExists => "File exists"
  | .noPermission => "Permission denied"
  | .noSpace => "No space left on device"
  | .nameTooLong => "File name too long"
  | .listTooLong => "Argument list too long"
  | .badName | .notText => "Invalid argument"

def Refusal.reason : Refusal → String
  | .file e => fileReason e
  | .badDescriptor => "Bad file descriptor"
  | .brokenPipe => "Broken pipe"
  | .noProcess => "No such process"
  | .noChild => "No child processes"
  | .noDevice => "No such device or address"
  | .invalid => "Invalid argument"
  | .notEmpty => "Directory not empty"
  | .noSeek => "Illegal seek"
  | .interrupted => "Interrupted system call"

end LintRepair.System
