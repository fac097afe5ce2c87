import RecallShell.CommandLine

/-!
# The program

Reads the history file and the standard input, runs the shell on a machine that holds nothing but
that file, and writes out what came of it.
-/

open RecallShell

/-- The history file that the environment names, if it can be read. -/
def readHistoryFile (path : String) : IO (Option ByteArray) := do
  try
    return some (← IO.FS.readBinFile path)
  catch _ =>
    return none

/-- Whether the directory is there that holds a path. -/
def hasDirectory (path : String) : IO Bool := do
  let directory := "/".intercalate ((path.splitOn "/").dropLast ++ ["."])
  try
    discard <| IO.FS.Handle.mk directory .read
    return true
  catch _ =>
    return false

/-- A machine's disk that holds the history file, or at least its directory. -/
def diskFor (historyPath : Text.Bytes) : IO Disk := do
  let path := Text.decode historyPath
  match ← readHistoryFile path with
  | some content =>
    return (Disk.blank.withWay historyPath).withFile historyPath content.toList false
  | none => return if ← hasDirectory path then Disk.blank.withWay historyPath else Disk.blank

/-- Reads a stream to its end. -/
partial def readToEnd (stream : IO.FS.Stream) (before : ByteArray) : IO ByteArray := do
  let chunk ← stream.read 65536
  if chunk.isEmpty then return before else readToEnd stream (before ++ chunk)

/-- Runs the shell. -/
def main : IO UInt32 := do
  let value ← IO.getEnv "HISTFILE"
  let histfile := value.map Text.encode
  let settings := Settings.ofHistoryFile histfile
  let disk ← diskFor settings.historyPath
  let input ← readToEnd (← IO.getStdin) .empty
  let outcome := runShell histfile (.file input.toList) (Machine.furnished disk)
  (← IO.getStdout).write ⟨outcome.out.toArray⟩
  (← IO.getStderr).write ⟨outcome.err.toArray⟩
  match outcome.disk.content? settings.historyPath with
  | some content =>
    IO.FS.writeBinFile (Text.decode settings.historyPath) ⟨content.toArray⟩
  | none => pure ()
  return UInt32.ofNat (Machine.Sh.statusOf outcome.ending)
