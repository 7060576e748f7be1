import LintRepair.Shell.Control
import LintRepair.Shell.Echo
import LintRepair.Shell.Input
import LintRepair.Shell.Jobs
import LintRepair.Shell.Judging
import LintRepair.Shell.Settings

/-!
The commands of the shell by their names.
-/
namespace LintRepair.Shell

def builtins : List (String × Builtin) :=
  [(".", source), (":", fun _ => return 0), ("break", leaveLoops .break),
    ("continue", leaveLoops .continue), ("eval", eval), ("exec", exec), ("exit", exit),
    ("return", leaveFunction), ("set", configure), ("shift", shift), ("times", times),
    ("trap", trap), ("unset", unset), ("export", publish false), ("readonly", publish true),
    ("local", localize), ("alias", aliases), ("bg", moveJob), ("cd", cd), ("chdir", cd),
    ("command", command), ("false", fun _ => return 1), ("fg", moveJob), ("getopts", getopts),
    ("hash", hash), ("jobs", jobs), ("kill", kill), ("pwd", pwd), ("read", read),
    ("true", fun _ => return 0), ("type", typeOf), ("ulimit", ulimit), ("umask", umask),
    ("unalias", unalias), ("wait", wait), ("echo", echo), ("printf", printf), ("test", test),
    ("[", test)]

end LintRepair.Shell
