import RecallShell.Disk.Path

/-!
# Settings

A session has one setting, where its history is kept, and two prompts.
-/

namespace RecallShell

open Text

/-- What the next line is wanted for. -/
inductive Prompt where
  /-- A command. -/
  | command
  /-- An answer to the offer to repeat the newest command. -/
  | offer
  deriving DecidableEq, Repr, Inhabited

/-- What is shown before a line is read. -/
def Prompt.text : Prompt → String
  | .command => "COMMAND->"
  | .offer => "Command->"

/-- What a session is told before it starts. -/
structure Settings where
  /-- The path of the history file. -/
  historyPath : Bytes
  deriving DecidableEq, Repr

namespace Settings

/-- The history file of a session that is told nothing. -/
def defaultHistoryPath : Bytes := encode "shell.history"

/-- Keeps the history at a given path. -/
def withHistoryPath (path : Bytes) : Settings := ⟨path⟩

/-- Keeps the history at a path that may be missing; an empty path counts as missing. -/
def ofHistoryFile : Option Bytes → Settings
  | none => withHistoryPath defaultHistoryPath
  | some path => withHistoryPath (if path.isEmpty then defaultHistoryPath else path)

/-- The settings that a value in the environment asks for; no environment can hold a byte zero. -/
def ofEnvironment? (value : Option Bytes) : Option Settings :=
  if (value.getD []).contains zeroByte then none else some (ofHistoryFile value)

instance : Inhabited Settings := ⟨ofHistoryFile none⟩

end Settings

end RecallShell
