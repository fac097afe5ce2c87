import RecallShell.IoError
import RecallShell.Text.Lines

/-!
# Buffered input

Input arrives in fills: each time the buffer runs dry, the next fill brings bytes, nothing for the
moment, or a failure. A line is gathered across fills up to its line feed. A fill that a signal cut
short is simply asked for again; any other failure ends the line, and what was gathered is lost.
-/

namespace RecallShell

open Text

/-- What asking for more input brings. -/
inductive Fill where
  /-- Some bytes; none stand for an end of input that may be passed. -/
  | bytes (data : Bytes)
  /-- A failure. -/
  | fault (cause : IoError)
  deriving DecidableEq, Repr

/-- Input with a buffer in front. -/
structure Input where
  /-- The bytes that have arrived but have not been read. -/
  buffer : Bytes
  /-- What is still to arrive; after the last fill the input is at its end. -/
  fills : List Fill
  deriving DecidableEq, Repr, Inhabited

/-- How much a fill can bring to read; a failure counts as well. -/
def Fill.weight : Fill → Nat
  | .bytes data => data.length + 1
  | .fault _ => 1

/-- How much fills can bring to read. -/
def weightOf : List Fill → Nat
  | [] => 0
  | fill :: fills => fill.weight + weightOf fills

namespace Input

/-- How much there can still be to read. -/
def remaining (i : Input) : Nat := i.buffer.length + weightOf i.fills

/-- Gathers a line behind bytes already gathered, from a buffer and the fills after it. -/
def gather (gathered buffer : Bytes) (fills : List Fill) : Except IoError Bytes × Input :=
  match firstLine? buffer, fills with
  | some (line, rest), fills => (.ok (gathered ++ line), ⟨rest, fills⟩)
  | none, [] => (.ok (gathered ++ buffer), ⟨[], []⟩)
  | none, .bytes data :: fills =>
    if data.isEmpty then (.ok (gathered ++ buffer), ⟨[], fills⟩)
    else gather (gathered ++ buffer) data fills
  | none, .fault cause :: fills =>
    if cause.isInterruption then gather (gathered ++ buffer) [] fills
    else (.error cause, ⟨[], fills⟩)

/-- Reads a line with its line feed; the line is empty only at an end of input. -/
def readLine (i : Input) : Except IoError Bytes × Input := gather [] i.buffer i.fills

end Input

end RecallShell
