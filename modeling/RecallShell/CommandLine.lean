import RecallShell.Host.Workstation
import RecallShell.Session.Loop

/-!
# The command line

The shell is started with a standard input and perhaps the path of a history file. It ends with the
code of its session; a session that fails ends it with the last code there is, after saying why. A
program that it runs can also end it by a signal. Programs left running go on as long as they are
heard.
-/

namespace RecallShell

open Text Machine

/-- What the shell reads from. -/
inductive StandardInput where
  /-- A file with some content. -/
  | file (content : Bytes)
  /-- A directory, which opens but cannot be read. -/
  | directory
  deriving DecidableEq, Repr

/-- The standard input, with nothing read yet. -/
def StandardInput.input : StandardInput → Input
  | .file content => ⟨[], Workstation.fillsOf content⟩
  | .directory => ⟨[], [.fault (.system .isDirectory)]⟩

/-- What is left of a run of the shell. -/
structure Outcome where
  /-- How it ended. -/
  ending : ExitStatus
  /-- What it and its programs wrote to the standard output. -/
  out : Bytes
  /-- What they wrote to the standard error. -/
  err : Bytes
  /-- The disk afterwards. -/
  disk : Disk

/-- The code after a fatal failure. -/
def failureCode : Int := 255

/-- The environment of the programs that the shell runs: nothing is to be logged, and the path of the
history file is in it where it was given. -/
def environmentFor (histfile : Option Bytes) : List (String × String) :=
  plainEnvironment ++ [("RUST_LOG", "off")] ++
    histfile.toList.map fun path => ("HISTFILE", octets path)

/-- The machine that the shell runs its programs on. -/
def machineFor (histfile : Option Bytes) (stdin : StandardInput) (disk : Disk) : Computer :=
  let environment := environmentFor histfile
  match stdin with
  | .file content => Computer.idle (disk.add (.file content) 0o644) disk.next environment
  | .directory => Computer.idle disk disk.here environment

/-- How many bytes of lines programs may let the shell read again. -/
def defaultPatience : Nat := 1000000

/-- Runs the shell on a disk. Its programs go on as long as one of them can be heard. -/
def runShell (histfile : Option Bytes) (stdin : StandardInput) (disk : Disk) : Outcome :=
  let machine := machineFor histfile stdin disk
  let host : Workstation := ⟨machine, stdin.input, defaultPatience⟩
  let settings := Settings.ofHistoryFile histfile
  let (result, session) :=
    (Session.start settings host (.fresh machine.world.disk .unbounded)).run
  let (code, last) : Int × String := match result with
    | .ok code => (code, "")
    | .error e => (failureCode, s!"{e.report}\n")
  let ending : ExitStatus := match session.host.machine.world.killed with
    | some signal => .signal signal
    | none => .code code
  let console := { session.console with diagnostics := session.console.diagnostics ++ encode last }
  let console := Workstation.consoleAfter console (session.host.ready console).drain
  ⟨ending, console.out.accepted, console.diagnostics, console.disk⟩

/-- A command to be launched, and whether to wait for all children before going on. -/
structure BatchItem where
  /-- The command. -/
  command : Command
  /-- Whether to wait for all children afterwards. -/
  drain : Bool
  deriving DecidableEq, Repr

/-- What a launch came to, and what it had written when that was looked at. -/
structure BatchResult where
  /-- What it came to. -/
  result : Except ShellError Launched
  /-- What it had written to the standard output. -/
  out : Bytes
  /-- What it had written to the standard error. -/
  err : Bytes

/-- Launches commands one after the other on a machine; waiting for all children takes their
reports. -/
def runBatch (c : Computer) (number : Nat) : List BatchItem → List BatchResult × Computer
  | [] => ([], c)
  | item :: items =>
    let (result, c) := c.launch number item.command
    let c := if item.drain then c.settle.heard else c
    let (results, last) := runBatch c (number + 1) items
    (⟨result, c.output number false, c.output number true⟩ :: results, last)

/-- A machine on which commands are launched that find nothing on their standard input. -/
def batchMachine (disk : Disk) (ignoresChildren : Bool) : Computer :=
  let input := (disk.look (encode "/dev/null")).toOption.getD Disk.root
  let c := Computer.idle disk input plainEnvironment
  { c with world := { c.world with ignoresChildren } }

end RecallShell
