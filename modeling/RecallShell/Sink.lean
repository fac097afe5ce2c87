import RecallShell.IoError
import RecallShell.Text.Utf8

/-!
# Output

A sink takes bytes, a bounded number of them at a time and perhaps a bounded number in all, and
holds them until they are flushed. Writing offers what is left again until nothing is left. A line
or a prompt is written and then flushed; when the reader at the other end is gone, nobody misses
the output and the failure does not count.
-/

namespace RecallShell

open Text

/-- What a write meets that goes beyond the room of a sink. -/
inductive Refusal where
  /-- It fails. -/
  | fails (cause : IoError)
  /-- It takes nothing. -/
  | takesNothing
  deriving DecidableEq, Repr

/-- Something that takes bytes. -/
structure Sink where
  /-- How many more bytes it takes, if there is a limit. -/
  room : Option Nat
  /-- What a write beyond the room meets. -/
  refusal : Refusal
  /-- How many bytes it takes at a time, if there is a limit. -/
  chunk : Option Nat
  /-- What the coming flushes fail with, if they fail. -/
  flushPlan : List (Option IoError)
  /-- What the flushes after those fail with, if they fail. -/
  flushFault : Option IoError
  /-- How many flushes have been asked for. -/
  flushes : Nat
  /-- The bytes taken and flushed, in order. -/
  sent : Bytes
  /-- The bytes taken since the last flush, in order. -/
  pending : Bytes
  deriving DecidableEq, Repr

namespace Sink

/-- A sink that takes everything. -/
def unbounded : Sink where
  room := none
  refusal := .takesNothing
  chunk := none
  flushPlan := []
  flushFault := none
  flushes := 0
  sent := []
  pending := []

instance : Inhabited Sink := ⟨unbounded⟩

/-- All bytes taken, in order. -/
def accepted (s : Sink) : Bytes := s.sent ++ s.pending

/-- The smaller of a number and a limit. -/
def capped (n : Nat) : Option Nat → Nat
  | none => n
  | some limit => min n limit

/-- A number is never below its capped value. -/
theorem capped_le (n : Nat) (limit : Option Nat) : capped n limit ≤ n := by
  cases limit with
  | none => exact Nat.le_refl n
  | some limit => exact Nat.min_le_left n limit

/-- Takes some bytes into the sink. -/
def take (s : Sink) (bs : Bytes) : Sink :=
  { s with room := s.room.map (· - bs.length), pending := s.pending ++ bs }

/-- Offers bytes once: how many were taken, or why none was. A sink that takes none at a time does
not come to see what lies beyond its room. -/
def offer (s : Sink) (bs : Bytes) : Except IoError Nat × Sink :=
  if s.chunk = some 0 then (.ok 0, s)
  else if s.room = some 0 then
    match s.refusal with
    | .fails cause => (.error cause, s)
    | .takesNothing => (.ok 0, s)
  else
    let count := capped (capped bs.length s.chunk) s.room
    (.ok count, s.take (bs.take count))

/-- Offers bytes again and again until all are taken. -/
def writeAll (s : Sink) (bs : Bytes) : Except IoError Unit × Sink :=
  if bs.isEmpty then (.ok (), s)
  else
    match s.offer bs with
    | (.error cause, s) => (.error cause, s)
    | (.ok 0, s) => (.error .wroteNothing, s)
    | (.ok (count + 1), s) => s.writeAll (bs.drop (count + 1))
termination_by bs.length
decreasing_by
  have : bs.length ≠ 0 := by simp_all
  simp only [List.length_drop]
  omega

/-- Sends on what has been taken: the bytes sent, or why they were not. -/
def flush (s : Sink) : Except IoError Bytes × Sink :=
  let asked := { s with flushPlan := s.flushPlan.tail, flushes := s.flushes + 1 }
  match s.flushPlan.headD s.flushFault with
  | some cause => (.error cause, asked)
  | none => (.ok s.pending, { asked with sent := s.accepted, pending := [] })

/-- A flush neither loses nor adds bytes. -/
@[simp] theorem accepted_flush (s : Sink) : s.flush.2.accepted = s.accepted := by
  unfold flush
  split <;> simp [accepted]

/-- A failure counts unless the reader is gone. -/
def forgive (cause : IoError) : Except IoError Unit :=
  if cause.isBrokenPipe then .ok () else .error cause

/-- Writes bytes and flushes them: whether that succeeded, and the bytes that the flush sent. -/
def emit (s : Sink) (bs : Bytes) : Except IoError Unit × Bytes × Sink :=
  match s.writeAll bs with
  | (.error cause, s) => (forgive cause, [], s)
  | (.ok (), s) =>
    match s.flush with
    | (.error cause, s) => (forgive cause, [], s)
    | (.ok sent, s) => (.ok (), sent, s)

/-- The bytes of a line of output. -/
def lineBytes (line : String) : Bytes := encode line ++ [lineFeed]

end Sink

end RecallShell
