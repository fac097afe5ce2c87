import RecallShell.Command
import RecallShell.Disk
import RecallShell.Launch
import RecallShell.ReadOutcome
import RecallShell.Settings
import RecallShell.ShellError
import RecallShell.Sink

/-!
# The surroundings of a session

A session shares its surroundings with the source of its lines and with the programs it launches:
the output, the diagnostics, the disk and the flag that an interrupt signal sets. A log keeps what
an observer sees happen, in order; what is asked of the surroundings is logged with a view of the
session at that moment.
-/

namespace RecallShell

open Text

/-- A session as it stands at one moment. -/
structure View where
  /-- The entries of its history, oldest first. -/
  history : List String
  /-- The content of the history file, if it can be read. -/
  file : Option Bytes
  /-- Whether an interrupt is waiting to be handled. -/
  pending : Bool
  deriving DecidableEq, Repr

/-- What an observer sees happen. -/
inductive Event where
  /-- Output was flushed. -/
  | sent (data : Bytes)
  /-- A warning was recorded. -/
  | warned (text : String)
  /-- A diagnostic was written. -/
  | complained (text : String)
  /-- An interrupt signal arrived. -/
  | signaled
  /-- An interrupt began to be handled. -/
  | interrupting
  /-- A line was asked for. -/
  | asked (prompt : Prompt) (view : View)
  /-- The read came to something. -/
  | answered (prompt : Prompt) (outcome : ReadOutcome)
  /-- The history was written to its file, or not. -/
  | saved (failure : Option ShellError)
  /-- A launch was asked for, on account of a line read under a prompt. -/
  | launching (prompt : Prompt) (command : Command) (view : View)
  /-- The launch came to something. -/
  | launched (prompt : Prompt) (command : Command) (result : Except ShellError Launched)
  deriving Repr

/-- What a session shares with the world around it. -/
structure Console where
  /-- Where output goes. -/
  out : Sink
  /-- The diagnostics written so far. -/
  diagnostics : Bytes
  /-- The disk. -/
  disk : Disk
  /-- Whether an interrupt is waiting to be handled. -/
  pending : Bool
  /-- What has happened so far. -/
  log : List Event
  deriving Inhabited

namespace Console

/-- The surroundings of a session that has just begun, on a given disk and with a given output. -/
def fresh (disk : Disk) (out : Sink) : Console where
  out := out
  diagnostics := []
  disk := disk
  pending := false
  log := []

/-- Notes that something has happened. -/
def record (c : Console) (event : Event) : Console := { c with log := c.log ++ [event] }

/-- Notes that output was flushed, unless there was none. -/
def recordSent (c : Console) (data : Bytes) : Console :=
  if data.isEmpty then c else c.record (.sent data)

/-- Writes bytes to the output and flushes it. -/
def emit (c : Console) (bs : Bytes) : Except IoError Unit × Console :=
  match c.out.emit bs with
  | (result, sent, out) => (result, ({ c with out := out }).recordSent sent)

/-- Writes a line of output and flushes it. -/
def emitLine (c : Console) (line : String) : Except IoError Unit × Console :=
  c.emit (Sink.lineBytes line)

/-- Writes a prompt and flushes it. -/
def emitPrompt (c : Console) (prompt : String) : Except IoError Unit × Console :=
  c.emit (encode prompt)

/-- Flushes the output without writing to it; failing at that has no consequences. -/
def flush (c : Console) : Console :=
  match c.out.flush with
  | (.ok sent, out) => ({ c with out := out }).recordSent sent
  | (.error _, out) => { c with out := out }

/-- Records a warning. -/
def warn (c : Console) (text : String) : Console := c.record (.warned text)

/-- Writes a diagnostic. -/
def complain (c : Console) (text : String) : Console :=
  ({ c with diagnostics := c.diagnostics ++ encode text }).record (.complained text)

/-- An interrupt signal arrives: it is handled at the next safe point. -/
def signal (c : Console) : Console := ({ c with pending := true }).record .signaled

/-- An interrupt signal arrives or not. -/
def signalIf (c : Console) (arrives : Bool) : Console := if arrives then c.signal else c

/-- Takes note of a waiting interrupt, which then no longer waits. -/
def takePending (c : Console) : Bool × Console := (c.pending, { c with pending := false })

end Console

/-- What can be done to the flag that an interrupt signal sets. -/
inductive FlagStep where
  /-- Have interrupt signals set the flag. -/
  | install
  /-- Send an interrupt signal. -/
  | raise
  /-- Read the flag and clear it. -/
  | take
  deriving DecidableEq, Repr

/-- What a step on the flag answers, and the flag after it. -/
def FlagStep.run : FlagStep → Bool → Bool × Bool
  | .install, pending => (true, pending)
  | .raise, _ => (true, true)
  | .take, pending => (pending, false)

/-- The answers to a sequence of steps on the flag. -/
def FlagStep.runAll : List FlagStep → Bool → List Bool
  | [], _ => []
  | step :: steps, pending => (step.run pending).1 :: runAll steps (step.run pending).2

end RecallShell
