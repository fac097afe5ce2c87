import RecallShell.Machine.Shell.Builtin.Control
import RecallShell.Machine.Shell.Builtin.Jobs
import RecallShell.Machine.Shell.Builtin.Output
import RecallShell.Machine.Shell.Builtin.Reading
import RecallShell.Machine.Shell.Builtin.System
import RecallShell.Machine.Shell.Builtin.Tests

/-!
# The commands of a shell

The names of the commands that a shell carries out itself, and what they do.
-/

namespace RecallShell.Machine

namespace Builtin

/-- What the commands of a shell do, by their names. -/
def table : List (String × Builtin) :=
  [(".", dot), (":", nothing 0), ("[", bracket), ("break", loopEnd false), ("cd", cd),
    ("chdir", cd), ("continue", loopEnd true), ("echo", echo), ("eval", eval), ("exec", exec),
    ("exit", exit), ("export", mark fun b => { b with exported := true }), ("false", nothing 1),
    ("getopts", getopts), ("hash", hash), ("jobs", jobs), ("kill", kill), ("local", local_),
    ("printf", printf), ("pwd", pwd), ("read", read),
    ("readonly", mark fun b => { b with constant := true }), ("return", return_), ("set", set),
    ("shift", shift), ("test", test), ("times", times), ("trap", trap), ("true", nothing 0),
    ("ulimit", ulimit), ("umask", umask), ("unset", unset), ("wait", wait)]

/-- What a command of the shell itself does, if there is one of that name. -/
def find? (name : String) : Option Builtin := table.lookup name

end Builtin

end RecallShell.Machine
