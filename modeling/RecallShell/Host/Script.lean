import RecallShell.Host

/-!
# Scripted hosts

A scripted host plays back fixed lists of what its reads and its launches come to, each perhaps
with an interrupt signal that arrives meanwhile. Once a list is used up, reads meet the end of the
stream and launches succeed.
-/

namespace RecallShell

/-- What one read comes to. -/
structure ScriptedRead where
  /-- Its outcome. -/
  outcome : ReadOutcome
  /-- Whether an interrupt signal arrives meanwhile. -/
  signal : Bool
  deriving DecidableEq, Repr

/-- How one launch goes. -/
inductive LaunchFate where
  /-- It fails. -/
  | fails (error : ShellError)
  /-- A process is waited for and ends with this status. -/
  | ends (status : ExitStatus)
  /-- A process with this number is left running. -/
  | detached (pid : Pid)
  /-- What the command asks for happens: a process is waited for and ends with this code, or is
  left running. -/
  | asAsked (code : Int)
  deriving DecidableEq, Repr

/-- The number of a process that a script leaves running without giving it one. -/
def scriptedPid : Pid := 4242

/-- What a launch comes to that goes in a given way. -/
def LaunchFate.result (command : Command) : LaunchFate → Except ShellError Launched
  | .fails error => .error error
  | .ends status => .ok (.foreground status)
  | .detached pid => .ok (.background pid)
  | .asAsked code =>
    if command.background then .ok (.background scriptedPid)
    else .ok (.foreground (.code code))

/-- What one launch comes to. -/
structure ScriptedLaunch where
  /-- How it goes. -/
  fate : LaunchFate
  /-- Whether an interrupt signal arrives meanwhile. -/
  signal : Bool
  deriving DecidableEq, Repr

/-- Launches a command as the first item of a list says. -/
def launchScripted (command : Command) (launches : List ScriptedLaunch) (c : Console) :
    Except ShellError Launched × List ScriptedLaunch × Console :=
  match launches with
  | [] => ((LaunchFate.asAsked 0).result command, [], c)
  | item :: rest => (item.fate.result command, rest, c.signalIf item.signal)

/-- A host that plays back lists. -/
structure Script where
  /-- What its reads come to. -/
  reads : List ScriptedRead
  /-- What its launches come to. -/
  launches : List ScriptedLaunch
  deriving DecidableEq, Repr, Inhabited

namespace Script

/-- Reads as the first item of the list says. -/
def readLine (s : Script) (c : Console) : ReadOutcome × Script × Console :=
  match s.reads with
  | [] => (.endOfStream, s, c)
  | item :: rest => (item.outcome, { s with reads := rest }, c.signalIf item.signal)

/-- Launches as the first item of the list says. -/
def launch (command : Command) (s : Script) (c : Console) :
    Except ShellError Launched × Script × Console :=
  match launchScripted command s.launches c with
  | (result, launches, c) => (result, { s with launches := launches }, c)

instance : Host Script where
  readLine _ s c := s.readLine c
  launch := launch
  remaining s := s.reads.length
  remaining_readLine_le _ s c := by
    unfold readLine
    split <;> simp_all
  remaining_readLine_lt _ s c h := by
    unfold readLine at h ⊢
    split <;> simp_all
  remaining_launch_le _ _ _ := Nat.le_refl _

end Script

end RecallShell
