import RecallShell.History.File
import RecallShell.Host

/-!
# Sessions

A session is a history with the file it is kept in, a host and the surroundings. Each thing that a
session does is one operation here, which notes in the log what an observer sees of it.
-/

namespace RecallShell

open Text

/-- One run of the shell, from its start to its end. -/
structure Session (H : Type) where
  /-- The path of the history file. -/
  path : Bytes
  /-- The programs launched last. -/
  history : History
  /-- Where lines come from and commands are run. -/
  host : H
  /-- The surroundings. -/
  console : Console

namespace Session

variable {H : Type}

/-- Begins a session with the history kept in its file. -/
def start (settings : Settings) (host : H) (console : Console) : Session H :=
  match History.load console.disk settings.historyPath with
  | (history, warning?) =>
    { path := settings.historyPath
      history := history
      host := host
      console := match warning? with
        | some text => console.warn text
        | none => console }

/-- The session as it stands. -/
def view (s : Session H) : View where
  history := s.history.entries
  file := s.console.disk.content? s.path
  pending := s.console.pending

/-- Notes that something has happened. -/
def record (s : Session H) (event : Event) : Session H :=
  { s with console := s.console.record event }

/-- Writes a line of output; failing at that has no consequences. -/
def say (s : Session H) (line : String) : Session H :=
  { s with console := (s.console.emitLine line).2 }

/-- Writes lines of output one after the other. -/
def sayAll (s : Session H) (lines : List String) : Session H := lines.foldl say s

/-- Records a warning. -/
def warn (s : Session H) (text : String) : Session H :=
  { s with console := s.console.warn text }

/-- Writes a diagnostic. -/
def complain (s : Session H) (text : String) : Session H :=
  { s with console := s.console.complain text }

/-- Forgets a waiting interrupt. -/
def clearPending (s : Session H) : Session H :=
  { s with console := s.console.takePending.2 }

/-- Adds a program to the history. -/
def remember (s : Session H) (program : String) : Session H :=
  { s with history := s.history.append program }

/-- Writes the history to its file. -/
def save (s : Session H) : Except ShellError Unit × Session H :=
  match s.history.save s.path s.console.disk with
  | (.ok (), disk) =>
    (.ok (), ({ s with console := { s.console with disk := disk } }).record (.saved none))
  | (.error e, disk) =>
    (.error e, ({ s with console := { s.console with disk := disk } }).record (.saved (some e)))

/-- Asks the host for a line. -/
def ask [Host H] (s : Session H) (prompt : Prompt) : ReadOutcome × Session H :=
  let s := s.record (.asked prompt s.view)
  match Host.readLine prompt s.host s.console with
  | (outcome, host, console) =>
    (outcome, ({ s with host := host, console := console }).record (.answered prompt outcome))

/-- Has the host launch a command, on account of a line read under a prompt. -/
def launch [Host H] (s : Session H) (prompt : Prompt) (command : Command) :
    Except ShellError Launched × Session H :=
  let s := s.record (.launching prompt command s.view)
  match Host.launch command s.host s.console with
  | (result, host, console) =>
    (result, ({ s with host := host, console := console }).record
      (.launched prompt command result))

/-- How much there can still be to read. -/
def remaining [Host H] (s : Session H) : Nat := Host.remaining s.host

/-- Asking for a line never leaves more to read. -/
theorem remaining_ask_le [Host H] (s : Session H) (prompt : Prompt) :
    (s.ask prompt).2.remaining ≤ s.remaining :=
  Host.remaining_readLine_le prompt s.host _

/-- Asking for a line and getting something leaves less to read. -/
theorem remaining_ask_lt [Host H] (s : Session H) (prompt : Prompt)
    (h : (s.ask prompt).1 ≠ .endOfStream) : (s.ask prompt).2.remaining < s.remaining :=
  Host.remaining_readLine_lt prompt s.host _ h

/-- A launch never leaves more to read. -/
theorem remaining_launch_le [Host H] (s : Session H) (prompt : Prompt) (command : Command) :
    (s.launch prompt command).2.remaining ≤ s.remaining :=
  Host.remaining_launch_le command s.host _

/-- Saying lines leaves as much to read. -/
@[simp] theorem remaining_sayAll [Host H] (s : Session H) (lines : List String) :
    (s.sayAll lines).remaining = s.remaining := by
  induction lines generalizing s with
  | nil => rfl
  | cons line lines ih => exact ih (s.say line)

/-- Writing the history leaves as much to read. -/
@[simp] theorem remaining_save [Host H] (s : Session H) :
    s.save.2.remaining = s.remaining := by
  unfold save
  split <;> rfl

end Session

end RecallShell
