import RecallShell.IoError

/-!
# What reading a line comes to

A read ends with a line, at the end of the stream, cut short by the user or a signal, or in a
failure. A line editor reports its results in its own way; they are sorted into these four.
-/

namespace RecallShell

/-- What reading a line came to. -/
inductive ReadOutcome where
  /-- A line, without its terminator. -/
  | line (text : String)
  /-- There are no more lines. -/
  | endOfStream
  /-- The read was cut short and may be tried again. -/
  | interrupted
  /-- The read failed. -/
  | failed (cause : IoError)
  deriving DecidableEq, Repr, Inhabited

/-- What a line editor reports. -/
inductive EditorResult where
  /-- A line was entered. -/
  | line (text : String)
  /-- The user asked for the end of the stream. -/
  | endOfFile
  /-- The user cut the line short. -/
  | interrupted
  /-- The window changed its size. -/
  | windowResized
  /-- Input or output failed. -/
  | io (cause : IoError)
  /-- The terminal refused an operation. -/
  | terminal (number : Errno)
  deriving DecidableEq, Repr

/-- What a line editor's result comes to; failures that are not of input or output keep only their
text. -/
def EditorResult.outcome : EditorResult → ReadOutcome
  | .line text => .line text
  | .endOfFile => .endOfStream
  | .interrupted => .interrupted
  | .windowResized => .failed (.custom .other "WindowResized")
  | .io cause => if cause.isInterruption then .interrupted else .failed cause
  | .terminal number =>
    if number = .interrupted then .interrupted else .failed (.custom .other number.label)

end RecallShell
