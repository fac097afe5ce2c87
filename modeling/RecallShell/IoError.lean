import RecallShell.Errno

/-!
# Failures of input and output

An operation fails with an error number, with a kind and a message of its own, or with a bare kind.
Each has a kind and a text.
-/

namespace RecallShell

/-- Why an input or output operation failed. -/
inductive IoError where
  /-- The system gave an error number. -/
  | system (number : Errno)
  /-- A failure with a message of its own. -/
  | custom (sort : ErrorKind) (message : String)
  /-- A failure of which only the kind is known. -/
  | bare (sort : ErrorKind)
  deriving DecidableEq, Repr, Inhabited

namespace IoError

/-- The sort of failure. -/
def kind : IoError → ErrorKind
  | .system n => n.kind
  | .custom k _ => k
  | .bare k => k

/-- The failure in words. -/
def text : IoError → String
  | .system n => s!"{n.text} (os error {n.code})"
  | .custom _ message => message
  | .bare k => k.description

/-- A writer that takes no byte leaves the buffer unwritten. -/
def wroteNothing : IoError := .custom .writeZero "failed to write whole buffer"

/-- A path cannot hold a byte zero. -/
def zeroInPath : IoError :=
  .custom .invalidInput "file name contained an unexpected NUL byte"

/-- Whether a signal cut the operation short. -/
def isInterruption (e : IoError) : Bool := e.kind == .interrupted

/-- Whether the reader at the other end is gone. -/
def isBrokenPipe (e : IoError) : Bool := e.kind == .brokenPipe

end IoError

end RecallShell
