import RecallShell.Errno

/-!
# Launched programs

A launch that is waited for ends with the status of the child process; one that is not leaves a
process running.
-/

namespace RecallShell

/-- The number that the system gives a process. -/
abbrev Pid := Int

/-- How a process ended. -/
inductive ExitStatus where
  /-- It ended by itself with a code. -/
  | code (value : Int)
  /-- A signal ended it. -/
  | signal (number : Int)
  deriving DecidableEq, Repr, Inhabited

/-- What a launch came to. -/
inductive Launched where
  /-- The process ran to its end. -/
  | foreground (status : ExitStatus)
  /-- The process was left running. -/
  | background (pid : Pid)
  deriving DecidableEq, Repr, Inhabited

end RecallShell
