import RecallShell.Command
import RecallShell.Launch.Argv
import RecallShell.Launch.Reaping

/-!
# Launching through the system

A command is launched by forking a child that runs it; a foreground command is then waited for.
The system answers each fork and each wait in turn. A command that cannot be handed to a program
never gets as far as a fork.
-/

namespace RecallShell

/-- What the system answers from here on. -/
structure Kernel where
  /-- What the coming forks come to: the number of the child, or a failure. -/
  forks : List (Except Errno Pid)
  /-- What the coming waits come to. -/
  reports : List WaitReport
  deriving Repr, Inhabited

/-- Why a command without a program cannot be launched. -/
def ShellError.emptyCommand : ShellError := .invalidArgument "empty command"

/-- The arguments of a command as a program takes them. -/
def Command.argv (c : Command) : Except ShellError Argv :=
  match Argv.ofArgs c.args with
  | .error e => .error e
  | .ok v => if v.isEmpty then .error .emptyCommand else .ok v

namespace Kernel

/-- Waits for a child, or leaves it running. -/
def follow (k : Kernel) (command : Command) (child : Pid) : Except ShellError Launched × Kernel :=
  if command.background then (.ok (.background child), k)
  else
    match awaitChild child k.reports with
    | (.ok status, rest) => (.ok (.foreground status), { k with reports := rest })
    | (.error number, rest) => (.error (.wait number), { k with reports := rest })

/-- Launches a command. A system with no more answers has no room for another process. -/
def launch (k : Kernel) (command : Command) : Except ShellError Launched × Kernel :=
  match command.argv with
  | .error e => (.error e, k)
  | .ok _ =>
    match k.forks with
    | [] => (.error (.fork .tryAgain), k)
    | .error number :: rest => (.error (.fork number), { k with forks := rest })
    | .ok child :: rest => ({ k with forks := rest }).follow command child

/-- Launches commands one after the other. -/
def launchAll (k : Kernel) : List Command → List (Except ShellError Launched) × Kernel
  | [] => ([], k)
  | command :: commands =>
    let r := k.launch command
    let rest := r.2.launchAll commands
    (r.1 :: rest.1, rest.2)

/-- A background launch takes no report. -/
theorem reports_follow_background {k : Kernel} {command : Command} {child : Pid}
    (h : command.background = true) : (k.follow command child).2.reports = k.reports := by
  simp [follow, h]

end Kernel

end RecallShell
