import RecallShell.Machine.Loading
import RecallShell.Machine.Quoting

/-!
# Work of utilities

A utility reads, writes and changes the disk, and ends with a status. What it writes to its standard
output gathers until there is a block of it or the utility ends; what it has to complain about is
written at once, behind the name that it was called by. All its text is in octet strings.
-/

namespace RecallShell.Machine

open Text

/-- How a utility was called. -/
structure Invocation where
  /-- What it was called. -/
  name : String
  /-- Its arguments. -/
  args : List String
  /-- The values of its environment. -/
  environment : List (String × String)
  deriving DecidableEq, Repr, Inhabited

namespace Invocation

/-- The language of some kind of text, as the environment gives it. -/
def languageOf (i : Invocation) (kind : String) : String :=
  let values := ["LC_ALL", kind, "LANG"].filterMap fun name => i.environment.lookup name
  (values.find? fun v => !v.isEmpty).getD "C"

/-- The language that characters are in. -/
def language (i : Invocation) : String := i.languageOf "LC_CTYPE"

/-- Whether some kind of text is in another language than the one that comes with every machine. -/
def hasLanguage (i : Invocation) (kind : String) : Bool :=
  ["C.UTF-8", "C.UTF8"].contains (i.languageOf kind).toUpper

/-- Whether text is taken to be UTF-8. -/
def hasUnicode (i : Invocation) : Bool :=
  let language := i.language.toUpper
  language.endsWith ".UTF-8" || language.endsWith ".UTF8"

end Invocation

/-- What a utility has done so far. -/
structure Job where
  /-- How it was called. -/
  invocation : Invocation
  /-- What it has written and what still waits to be a block. -/
  out : String
  /-- Why writing failed. -/
  outFault : Option Errno
  /-- The status it will end with. -/
  status : Nat
  deriving Inhabited

/-- A part of a utility's work. -/
abbrev Work := StateT Job Act

/-- A program that reads and writes and ends. -/
abbrev Utility := Invocation → Work Unit

namespace Work

/-! ## Writing -/

/-- The number of octets that are written at once. -/
def blockSize : Nat := 4096

/-- Writes to the standard output what has gathered; after a failure nothing more is written. -/
def flush : Work Unit := do
  let j ← get
  if j.outFault.isSome || j.out.isEmpty then set { j with out := "" }
  else
    match ← Act.write 1 j.out with
    | .ok () => set { j with out := "" }
    | .error e => set { j with out := "", outFault := some e }

/-- Writes to the standard output. -/
def say (text : String) : Work Unit := do
  modify fun j => { j with out := j.out ++ text }
  let j ← get
  if blockSize ≤ j.out.utf8ByteSize then
    let whole := j.out.utf8ByteSize / blockSize * blockSize
    let (now, later) := cutAt whole j.out
    set { j with out := now }
    flush
    modify fun j => { j with out := later }

/-- Writes a line to the standard output. -/
def sayLine (text : String) : Work Unit := say (text ++ "\n")

/-- Writes to the standard error. -/
def sayError (text : String) : Work Unit := do
  discard <| (Act.write 2 text : Act _)

/-- Sets the status to end with, unless a greater one has been set. -/
def fail (status : Nat) : Work Unit := modify fun j => { j with status := max j.status status }

/-- Sets the status to end with. -/
def setStatus (status : Nat) : Work Unit := modify fun j => { j with status }

/-- What the utility was called. -/
def name : Work String := do return (← get).invocation.name

/-- Writes a line to the standard error, behind the name of the utility, and fails. -/
def complain (text : String) (status : Nat) : Work Unit := do
  sayError s!"{← name}: {text}\n"
  fail status

/-- Ends the utility: what has gathered is written, and a failure to do so is said. -/
def finish {α : Type} : Work α := do
  flush
  match (← get).outFault with
  | some e => do
    complain s!"write error: {e.text}" 1
    modify fun j => { j with outFault := none }
  | none => pure ()
  (Act.exit (← get).status : Act α)

/-- Ends the utility with a status. -/
def exit {α : Type} (status : Nat) : Work α := do
  setStatus status
  finish

/-- Says that something is wrong and ends the utility. -/
def die {α : Type} (text : String) (status : Nat) : Work α := do
  flush
  complain text status
  exit status

/-! ## Reading -/

/-- Opens a file for reading; a dash stands for the standard input. -/
def openInput (path : String) : Work (Except Errno Nat) := do
  if path == "-" then return .ok 0 else Act.open_ path .input

/-- Closes a descriptor, but not the standard input. -/
def closeInput (descriptor : Nat) : Work Unit := do
  if descriptor != 0 then (Act.close descriptor : Act Unit)

/-- Reads so many octets at most; none means the end. -/
def read (descriptor count : Nat) : Work (Except Errno String) := Act.read descriptor count

/-- Reads a file, or the standard input for a dash, to its end. -/
def contentOf (path : String) : Work (Except Errno String) := do
  match ← openInput path with
  | .error e => return .error e
  | .ok descriptor => do
    let content ← (Act.readAll descriptor : Act _)
    closeInput descriptor
    return content

/-- Goes through lines with a state, as long as there is to be more of them; what is left otherwise is
told. -/
def goLines {σ : Type} (go : σ → String → Work (σ × Bool)) :
    List String → σ → Work (σ × Option (List String))
  | [], s => return (s, none)
  | line :: rest, s => do
    match ← go s line with
    | (s, true) => goLines go rest s
    | (s, false) => return (s, some rest)

/-- Reads on and goes through the lines with a state, the last of which may lack its end, as long as
there is to be more of them; what has been read behind is told then. -/
def foldLines {σ : Type} (descriptor : Nat) (go : σ → String → Bool → Work (σ × Bool)) :
    Nat → String → σ → Work (σ × Except Errno (Option String))
  | 0, _, s => return (s, .ok none)
  | turns + 1, before, s => do
    let finish (result : Except Errno (Option String)) : Work (σ × Except Errno (Option String)) := do
      if before.isEmpty then return (s, result)
      let (s, more) ← go s before false
      return (s, if more then result else .ok (some ""))
    match ← read descriptor blockSize with
    | .error e => finish (.error e)
    | .ok "" => finish (.ok none)
    | .ok text =>
      let parts := (before ++ text).splitToList (· == '\n')
      let tail := parts.getLastD ""
      match ← goLines (fun s line => go s line true) parts.dropLast s with
      | (s, some rest) => return (s, .ok (some ("\n".intercalate (rest ++ [tail]))))
      | (s, none) => foldLines descriptor go turns tail s

/-- Puts the position of the standard input behind what was used of it, if it has one. -/
def giveBack (descriptor : Nat) (unused : String) : Work Unit := do
  if !unused.isEmpty then
    discard <| (Act.step fun pid w =>
      match w.extent? pid descriptor with
      | some (at_, _) => w.seek pid descriptor (at_ - unused.length)
      | none => (.ok (), w) : Act _)

/-! ## The disk -/

/-- The disk. -/
def disk : Work Disk := Act.disk

/-- Changes the disk, unless that fails. -/
def change (change : Disk → Except Errno Disk) : Work (Except Errno Unit) := Act.changeDisk change

/-- What a path stands for: through a link at its end, or that link itself. -/
def statusOf (through : Bool) (path : String) : Work (Except Errno (NodeId × Node)) := do
  let d ← disk
  return (d.status through (ofOctets path)).map fun id => (id, d.node id)

/-- Does something for each operand in turn. -/
def forEach {α : Type} (operands : List α) (run : α → Work Unit) : Work Unit := operands.forM run

/-- Text between curly quotes, or straight ones where the language has no others. -/
def quote (text : String) : Work String := do
  return if (← get).invocation.hasUnicode then Quoting.curly text else Quoting.straight text

end Work

/-- The activity of a utility. -/
def Utility.activity (run : Utility) (program : Loaded) : Activity :=
  let invocation : Invocation :=
    ⟨program.argv.headD program.program, program.argv.tail, program.environment⟩
  let work : Work Unit := do
    run invocation
    Work.finish
  Act.run (work.run ⟨invocation, "", none, 0⟩) fun _ => .ended (.code 0)

/-- Where help on a utility is found. -/
def helpHint (name : String) : String := s!"Try '{name} --help' for more information."

/-- Ends a utility that was not called as it must be. -/
def misused {α : Type} (complaint : String) (status : Nat) : Work α := do
  Work.complain s!"{complaint}\n{helpHint (← Work.name)}" status
  Work.exit status

/-! ## Paths and lines -/

/-- The last name of a path, slashes behind it aside. -/
def lastName (path : String) : String :=
  let cs := (path.toList.reverse.dropWhile (· == '/')).reverse
  if cs.isEmpty then (if path.isEmpty then "" else "/")
  else String.ofList (cs.reverse.takeWhile (· != '/')).reverse

/-- The lines of a text, without their ends. -/
def linesOf (text : String) : List String :=
  let parts := text.splitToList (· == '\n')
  if parts.getLast? == some "" then parts.dropLast else parts

end RecallShell.Machine
