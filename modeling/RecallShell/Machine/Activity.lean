import RecallShell.Machine.Descriptor

/-!
# Activities

What a process does is an activity: it changes the world in steps, waits for the world to become as
it needs it, starts other processes, becomes another program and ends. An activity is a value, so
that a process can start another one by saying what that one is to do.
-/

namespace RecallShell.Machine

open Text

/-- A program that is to be run: its name among those of the machine, and what it is given. -/
structure Loaded where
  /-- The name of a program of the machine. -/
  program : String
  /-- Its arguments, the first of which is what it is called. -/
  argv : List String
  /-- The variables that it finds, with their values. -/
  environment : List (String × String)
  deriving DecidableEq, Repr, Inhabited

/-- What a process does from here on. -/
inductive Activity where
  /-- It ends. -/
  | ended (status : ExitStatus)
  /-- It changes the world, and goes on as that says. -/
  | step (run : Pid → World → World × Activity)
  /-- It goes on as soon as the world is ready for it, or at some time at the latest. -/
  | await (deadline : Option Nat) (ready : Pid → World → Bool) (next : Activity)
  /-- It starts another process and goes on with the number of that. -/
  | fork (child : Activity) (next : Pid → Activity)
  /-- It becomes a program. -/
  | become (program : Loaded)

instance : Inhabited Activity := ⟨.ended default⟩

/-- A part of an activity that comes to a value: what happens depends on what is done with that. -/
def Act (α : Type) : Type := (α → Activity) → Activity

namespace Act

instance : Monad Act where
  pure a := fun next => next a
  bind part more := fun next => part fun a => more a next

/-- Does something with the value that an activity comes to. -/
def run {α : Type} (act : Act α) (next : α → Activity) : Activity := act next

/-- Looks at the world and changes it. -/
def step {α : Type} (change : Pid → World → α × World) : Act α := fun next =>
  .step fun pid w => let r := change pid w; (r.2, next r.1)

/-- Looks at the world. -/
def look {α : Type} (view : Pid → World → α) : Act α := fun next =>
  .step fun pid w => let a := view pid w; (w, next a)

/-- Changes the world. -/
def change (change : Pid → World → World) : Act Unit := fun next =>
  .step fun pid w => (change pid w, next ())

/-- Waits until the world is ready, but not beyond a deadline. -/
def waitUntil (deadline : Option Nat) (ready : Pid → World → Bool) : Act Unit := fun next =>
  .await deadline ready (next ())

/-- Waits until the world is ready. -/
def waitFor (ready : Pid → World → Bool) : Act Unit := waitUntil none ready

/-- Ends the process. -/
def exit {α : Type} (status : Nat) : Act α := fun _ => .ended (.code status)

/-- Starts a process. -/
def fork (child : Activity) : Act Pid := fun next => .fork child next

/-- Becomes a program. -/
def become {α : Type} (program : Loaded) : Act α := fun _ => .become program

/-- The time, in microseconds. -/
def clock : Act Nat := look fun _ w => w.clock

/-- Lets some time pass, in microseconds. -/
def pause (duration : Nat) : Act Unit := do
  let now ← clock
  waitUntil (some (now + duration)) fun _ _ => false

/-! ## Reading and writing -/

/-- Reads so many octets at most; none means the end. -/
def read (descriptor count : Nat) : Act (Except Errno String) := do
  waitFor fun pid w => w.canRead pid descriptor
  step fun pid w => w.read pid descriptor count

/-- Writes octets, some of them at least; says how many. -/
def writeSome (descriptor : Nat) (text : String) : Act (Except Errno Nat) := do
  let count := min text.length pipePiece
  waitFor fun pid w => w.canWrite pid descriptor count
  step fun pid w => w.write pid descriptor text

/-- Writes octets until none are left, in so many turns at most. -/
def writeRest (descriptor : Nat) : Nat → String → Act (Except Errno Unit)
  | 0, _ => return .ok ()
  | turns + 1, text => do
    match ← writeSome descriptor text with
    | .error e => return .error e
    | .ok count =>
      let (_, rest) := cutAt count text
      if rest.isEmpty then return .ok () else writeRest descriptor turns rest

/-- Writes octets until none are left. -/
def write (descriptor : Nat) (text : String) : Act (Except Errno Unit) :=
  if text.isEmpty then return .ok () else writeRest descriptor (text.length + 1) text

/-- Opens a path. A pipe with a name must meet its other side. -/
def open_ (path : String) (access : Access) : Act (Except Errno Nat) := do
  match ← step fun pid w => w.open_ pid path access 0 with
  | .error e => return .error e
  | .ok descriptor => do
    waitFor fun pid w => w.isMet pid descriptor
    return .ok descriptor

/-- Closes a descriptor. -/
def close (descriptor : Nat) : Act Unit := change fun pid w => w.close pid descriptor

/-- Reads to the end, in so many turns at most, behind what has been read already. -/
def readRest (descriptor : Nat) : Nat → String → Act (Except Errno String)
  | 0, before => return .ok before
  | turns + 1, before => do
    match ← read descriptor pipeSize with
    | .error e => return .error e
    | .ok text => if text.isEmpty then return .ok before else readRest descriptor turns (before ++ text)

/-- A number of turns that nothing exceeds which comes to an end. -/
def endless : Nat := 1000000000000000

/-- Reads to the end. -/
def readAll (descriptor : Nat) : Act (Except Errno String) := readRest descriptor endless ""

/-! ## The disk -/

/-- Looks at the disk as the process sees it. -/
def disk : Act Disk := look fun pid w => w.diskOf pid

/-- Changes the disk as the process sees it, unless that fails. -/
def changeDisk (change : Disk → Except Errno Disk) : Act (Except Errno Unit) :=
  step fun pid w =>
    match change (w.diskOf pid) with
    | .ok disk => (.ok (), w.withDisk disk)
    | .error e => (.error e, w)

/-! ## Processes -/

/-- Sends a signal to the processes that a number asks for; says whether there are any. -/
def signal (target : Pid) (signal : Signal) : Act Bool :=
  step fun pid w =>
    let targets := w.targets pid target
    (!targets.isEmpty, targets.foldl (fun w t => w.hit t signal) w)

/-- Waits for a child to end, and forgets it: how it ended. -/
def waitChild (child : Pid) : Act ExitStatus := do
  waitFor fun pid w =>
    (w.endedChild? pid (· == child)).isSome || !w.hasChild pid (· == child)
  step fun pid w =>
    match w.endedChild? pid (· == child) with
    | some (_, status) => (status, w.forget child)
    | none => (.code 0, w)

end Act

end RecallShell.Machine
