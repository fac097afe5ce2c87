import RecallShell.IoError
import RecallShell.Text.Utf8

/-!
# Failures of the shell

What can go wrong in a session, in words, and whether the session can go on after it.
-/

namespace RecallShell

open Text

/-- Why the shell could not do something. -/
inductive ShellError where
  /-- The next line could not be read. -/
  | read (cause : IoError)
  /-- The line editor could not start. -/
  | editor (reason : String)
  /-- No child process could be made. -/
  | fork (number : Errno)
  /-- A child process could not be waited for. -/
  | wait (number : Errno)
  /-- An argument cannot be handed to a program. -/
  | invalidArgument (reason : String)
  /-- The history file could not be written. -/
  | history (path : Bytes) (cause : IoError)
  deriving DecidableEq, Repr, Inhabited

namespace ShellError

/-- The failure in words. -/
def message : ShellError → String
  | .read cause => s!"error reading the command: {cause.text}"
  | .editor reason => s!"cannot start line editor: {reason}"
  | .fork number => s!"failed to fork: {number.label}"
  | .wait number => s!"failed to wait for child: {number.label}"
  | .invalidArgument reason => s!"invalid argument: {reason}"
  | .history path cause => s!"history file {decode path}: {cause.text}"

/-- Whether the session ends with it. -/
def isFatal : ShellError → Bool
  | .read _ | .editor _ | .fork _ | .wait _ => true
  | .invalidArgument _ | .history _ _ => false

/-- The failure underneath, in words, where there is one. -/
def cause? : ShellError → Option String
  | .read cause => some cause.text
  | .fork number | .wait number => some number.label
  | .history _ cause => some cause.text
  | .editor _ | .invalidArgument _ => none

/-- The failure as the last word of a session: itself, then what is underneath. -/
def report (e : ShellError) : String :=
  match e.cause? with
  | some cause => s!"{e.message}: {cause}"
  | none => e.message

end ShellError

end RecallShell
