import RecallShell.Recall

/-!
# The course of a session

A session takes turns until it ends. A turn first handles an interrupt that is waiting, then asks
for a command. A line is recorded, written to the history file and launched, in this order; an
interrupted read is handled like an interrupt. The end of the stream ends the session well; a
failed read and a launch that fails fatally end it with that failure.
-/

namespace RecallShell

/-- What a turn leads to. -/
inductive Turn (H : Type) where
  /-- The session goes on. -/
  | again (s : Session H)
  /-- The session has ended. -/
  | ended (result : Except ShellError Int) (s : Session H)

namespace Session

variable {H : Type} [Host H]

/-- Says that the history could not be written. -/
def saveComplaint (error : ShellError) : String := s!"Error opening file: {error.message}\n"

/-- Says that a program could not be launched. -/
def launchComplaint (program : String) (error : ShellError) : String :=
  s!"{program}: {error.message}\n"

/-- Writes the history to its file and says so if that fails. -/
def keep (s : Session H) : Session H :=
  match s.save with
  | (.ok (), s) => s
  | (.error e, s) => (s.warn e.message).complain (saveComplaint e)

/-- Launches a command under the name of its program and says so if that fails; a fatal failure is
handed on instead. -/
def launchMain (s : Session H) (program : String) (command : Command) :
    Except ShellError Unit × Session H :=
  match s.launch .command command with
  | (.ok _, s) => (.ok (), s)
  | (.error e, s) =>
    if e.isFatal then (.error e, s) else (.ok (), s.complain (launchComplaint program e))

/-- Does what a line asks for. -/
def execute (s : Session H) (line : String) : Except ShellError Unit × Session H :=
  let command := Command.parse line
  match command.program? with
  | none => (.ok (), s)
  | some program => (s.remember program).keep.launchMain program command

/-- Handles an interrupt, which then no longer waits. -/
def interrupt (s : Session H) : Session H := s.clearPending.handleInterrupt.2

/-- Handles an interrupt if one is waiting. -/
def settle (s : Session H) : Session H := if s.console.pending then s.interrupt else s

/-- Flushes the output for the last time. -/
def finish (s : Session H) : Session H := { s with console := s.console.flush }

/-- Does what the read of a command asks for. -/
def proceed (s : Session H) : ReadOutcome → Turn H
  | .line line =>
    match s.execute line with
    | (.ok (), s) => .again s
    | (.error e, s) => .ended (.error e) s
  | .interrupted => .again s.interrupt
  | .endOfStream => .ended (.ok 0) s.finish
  | .failed cause => .ended (.error (.read cause)) s

/-- Takes one turn. -/
def turn (s : Session H) : Turn H :=
  match s.settle.ask .command with
  | (outcome, s) => s.proceed outcome

/-- Writing the history and saying so leaves as much to read. -/
@[simp] theorem remaining_keep (s : Session H) : s.keep.remaining = s.remaining := by
  have h := remaining_save s
  unfold keep
  split
  · rename_i he
    rwa [he] at h
  · rename_i he
    rw [he] at h
    exact h

/-- Launching never leaves more to read. -/
theorem remaining_launchMain_le (s : Session H) (program : String) (command : Command) :
    (s.launchMain program command).2.remaining ≤ s.remaining := by
  have h := remaining_launch_le s .command command
  unfold launchMain
  split
  · rename_i he
    rwa [he] at h
  · rename_i he
    rw [he] at h
    split
    · exact h
    · exact h

/-- Doing what a line asks for never leaves more to read. -/
theorem remaining_execute_le (s : Session H) (line : String) :
    (s.execute line).2.remaining ≤ s.remaining := by
  simp only [execute]
  split
  · exact Nat.le_refl _
  · rename_i program _
    have h := remaining_launchMain_le (s.remember program).keep program (Command.parse line)
    rw [remaining_keep] at h
    exact h

/-- Handling an interrupt never leaves more to read. -/
theorem remaining_interrupt_le (s : Session H) : s.interrupt.remaining ≤ s.remaining :=
  remaining_handleInterrupt_le s.clearPending

/-- Handling a waiting interrupt never leaves more to read. -/
theorem remaining_settle_le (s : Session H) : s.settle.remaining ≤ s.remaining := by
  unfold settle
  split
  · exact remaining_interrupt_le s
  · exact Nat.le_refl _

/-- A session that goes on after a read has no more to read than before. -/
theorem remaining_proceed_le {s t : Session H} {outcome : ReadOutcome}
    (h : s.proceed outcome = .again t) : t.remaining ≤ s.remaining ∧ outcome ≠ .endOfStream := by
  cases outcome with
  | line text =>
    have hle := remaining_execute_le s text
    simp only [proceed] at h
    split at h
    · rename_i he
      cases h
      rw [he] at hle
      exact ⟨hle, by simp⟩
    · cases h
  | interrupted =>
    cases h
    exact ⟨remaining_interrupt_le s, by simp⟩
  | endOfStream => cases h
  | failed cause => cases h

/-- A session that goes on has less to read than before. -/
theorem remaining_turn_lt {s t : Session H} (h : s.turn = .again t) :
    t.remaining < s.remaining := by
  obtain ⟨hle, hne⟩ := remaining_proceed_le (s := (s.settle.ask .command).2) h
  have hlt := remaining_ask_lt s.settle .command hne
  have hs := remaining_settle_le s
  omega

/-- Takes turns until the session ends: how it ended, and the session at its end. -/
def run (s : Session H) : Except ShellError Int × Session H :=
  match _h : s.turn with
  | .again t => t.run
  | .ended result t => (result, t)
termination_by s.remaining
decreasing_by exact remaining_turn_lt _h

end Session

end RecallShell
