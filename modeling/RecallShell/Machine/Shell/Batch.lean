import RecallShell.Machine.Shell.State

/-!
# Processes that a shell has started

Processes left running are kept in batches with numbers of their own. A batch that the shell has
waited for, or of whose end it has told, makes room for another one. Processes that are waited for at
once are in no batch, but the shell tells of those that a signal ended.
-/

namespace RecallShell.Machine

namespace Sh

/-- Whether a batch can make room for another one. -/
def isFree (s : Shell) (number : Nat) : Bool :=
  match s.jobs.find? fun b => b.number == number with
  | none => true
  | some b => b.isOver && b.waited

/-- The least number that is free for a batch, which makes room if it is done. -/
def reserve : Sh Nat := do
  let s ← get
  let number := ((List.range (s.jobs.length + 1)).find? fun n => isFree s (n + 1)).getD 0 + 1
  set { s with jobs := s.jobs.filter fun b => b.number != number }
  return number

/-- Keeps processes that are left running as a batch. -/
def addBatch (pids : List Pid) : Sh Unit := do
  collect
  let number ← reserve
  modify fun s => { s with
    lastJob := pids.getLast?
    jobs := ⟨number, pids.map fun p => ⟨p, none⟩, false⟩ :: s.jobs }

/-- Waits until one of some children has ended, and forgets it. -/
def awaitOne (pids : List Pid) : Sh (Option (Pid × ExitStatus)) := do
  let isAsked (p : Pid) : Bool := pids.contains p
  (Act.waitFor fun pid w => (w.endedChild? pid isAsked).isSome || !w.hasChild pid isAsked : Act Unit)
  (Act.step fun pid w =>
    match w.endedChild? pid isAsked with
    | some (child, status) => (some (child, status), w.forget child)
    | none => (none, w) : Act _)

/-- Waits for children in any order: how each ended. -/
def awaitEach : Nat → List Pid → List (Pid × ExitStatus) → Sh (List (Pid × ExitStatus))
  | 0, _, ended | _, [], ended => return ended
  | turns + 1, pids, ended => do
    match ← awaitOne pids with
    | none => return ended
    | some (child, status) => do
      match endText? status with
      | some text => sayError (text ++ "\n")
      | none => pure ()
      awaitEach turns (pids.filter (· != child)) ((child, status) :: ended)

/-- Waits for children at once: the statuses that they ended with. -/
def awaitAll (pids : List Pid) : Sh (List Nat) := do
  collect
  discard reserve
  let ended ← awaitEach pids.length pids []
  return pids.map fun p => ((ended.lookup p).map statusOf).getD 0

/-- How a batch is getting on, in words. -/
def stateText (b : Batch) : String :=
  if !b.isOver then "Running"
  else
    match b.ending? with
    | some (.code 0) | none => "Done"
    | some (.code n) => s!"Done({n})"
    | some (.signal n) => Signal.text n

/-- The sign of a batch: which ones are asked for without a number. -/
def signOf (s : Shell) (b : Batch) : String :=
  match s.jobs with
  | first :: rest =>
    if first.number == b.number then "+"
    else if (rest.head?.any fun second => second.number == b.number) then "-" else " "
  | [] => " "

/-- The width of the columns in front of a batch's commands. -/
def stateWidth : Nat := 33

/-- The line that tells of a batch. -/
def batchLine (s : Shell) (b : Batch) : String :=
  let start := s!"[{b.number}] {signOf s b} {stateText b}"
  start ++ String.ofList (List.replicate (max 1 (stateWidth - start.length)) ' ')
    ++ String.join ((b.parts.drop 1).map fun _ => " | ") ++ "\n"

/-- Tells of batches. Those that are done are told of for the last time: each is forgotten before the
next one is told of. -/
def tellOf : Sh Unit := do
  collect
  (← get).jobs.forM fun b => do
    say (batchLine (← get) b)
    if b.isOver then modify fun s => { s with jobs := s.jobs.filter fun c => c.number != b.number }

end Sh

end RecallShell.Machine
