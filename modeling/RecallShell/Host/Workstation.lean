import RecallShell.Host.Piped
import RecallShell.Machine.Schedule

/-!
# Workstations

A workstation is a host with a machine of its own. Its standard input is an open file that the
programs it runs share: they find it where the session has stopped reading, and the session goes on
where they leave it. They may leave it at an earlier place, so that lines come again, but not forever.
What they write goes where the session itself writes. A session that a signal has ended reads nothing
more.
-/

namespace RecallShell

open Text Machine

/-- A host with a machine of its own. -/
structure Workstation where
  /-- The machine. -/
  machine : Computer
  /-- The standard input as far as it has been read. -/
  input : Input
  /-- How much more than once programs may let the session read. -/
  patience : Nat
  deriving Inhabited

namespace Workstation

/-- The number of bytes still to arrive. -/
def unread : List Fill → Nat
  | [] => 0
  | .bytes data :: fills => data.length + unread fills
  | .fault _ :: fills => unread fills

/-- The number of bytes that one read of a file brings. -/
def bufferSize : Nat := 8192

/-- Cuts bytes into pieces of one size. -/
def piecesOf (size : Nat) : Nat → Bytes → List Bytes
  | 0, _ | _, [] => []
  | fuel + 1, bs => bs.take size :: piecesOf size fuel (bs.drop size)

/-- The fills that bring the content of a file. -/
def fillsOf (content : Bytes) : List Fill :=
  (piecesOf bufferSize content.length content).map .bytes

/-- How much there can still be to read. -/
def remaining (w : Workstation) : Nat := w.input.remaining + w.patience

/-- Reading goes on with other fills, unless there is no patience left for as many. -/
def resume (w : Workstation) (fills : List Fill) : Workstation :=
  let (now, before) := (weightOf fills, weightOf w.input.fills)
  if now ≤ before then { w with input := { w.input with fills } }
  else if now - before ≤ w.patience then
    { w with input := { w.input with fills }, patience := w.patience - (now - before) }
  else w

/-- Going on elsewhere never leaves more to read. -/
theorem remaining_resume_le (w : Workstation) (fills : List Fill) :
    (w.resume fills).remaining ≤ w.remaining := by
  simp only [resume]
  split
  · simp only [remaining, Input.remaining]
    omega
  · split
    · simp only [remaining, Input.remaining]
      omega
    · exact Nat.le_refl _

/-- The open file that is the standard input, if it is a file, and its content. -/
def source? (c : Computer) : Option (Opened × Bytes) :=
  c.world.opened[c.input]?.bind fun o =>
    match (c.world.disk.node o.node).body with
    | .file content => some (o, content)
    | _ => none

/-- Puts the standard input where the session has stopped reading. -/
def placed (c : Computer) (fills : List Fill) : Computer :=
  match source? c with
  | some (o, content) =>
    let o := { o with offset := content.length - unread fills }
    { c with world := { c.world with opened := c.world.opened.setIfInBounds c.input o } }
  | none => c

/-- The workstation with a machine whose programs have left the standard input somewhere. -/
def after (w : Workstation) (c : Computer) : Workstation :=
  let w := { w with machine := c }
  match source? c with
  | some (o, content) => w.resume (fillsOf (content.drop o.offset))
  | none => w

/-- Programs never leave more to read. -/
theorem remaining_after_le (w : Workstation) (c : Computer) :
    (w.after c).remaining ≤ w.remaining := by
  simp only [after]
  split
  · exact remaining_resume_le _ _
  · exact Nat.le_refl _

/-- Passes on what programs have written. -/
def passOn (c : Console) : List Written → Console
  | [] => c
  | w :: rest =>
    let c := if w.outlet % 2 == 1 then { c with diagnostics := c.diagnostics ++ w.data }
      else (c.emit w.data).2
    passOn c rest

/-- The surroundings of the session after its programs have run. -/
def consoleAfter (console : Console) (c : Computer) : Console :=
  let console := passOn { console with disk := c.world.disk } c.world.written.toList
  if c.world.killed.isSome then { console with pending := false }
  else console.signalIf c.world.interrupted

/-- The machine with nothing left to pass on. -/
def passedOn (c : Computer) : Computer :=
  { c with world := { c.world with written := #[], interrupted := false } }

/-- The machine about to run programs in the surroundings of the session. -/
def ready (w : Workstation) (console : Console) : Computer :=
  let disk := { console.disk with clock := max console.disk.clock w.machine.clock }
  placed { w.machine with world := { w.machine.world with disk } } w.input.fills

/-- Writes a prompt and reads a line. -/
def readLine (prompt : Prompt) (w : Workstation) (c : Console) :
    ReadOutcome × Workstation × Console :=
  if w.machine.world.killed.isSome then (.endOfStream, w, c)
  else
    match readPrompted prompt.text w.input c with
    | (outcome, input, c) => (outcome, { w with input := input }, c)

/-- Launches a command on the machine. A launch whose end the session does not see counts as done. -/
def launch (command : Command) (w : Workstation) (console : Console) :
    Except ShellError Launched × Workstation × Console :=
  match (w.ready console).launch 0 command with
  | (result, c) =>
    (if c.world.killed.isSome then .ok (.foreground (.code 0)) else result,
      w.after (passedOn c), consoleAfter console c)

/-- Reading a line never leaves more to read. -/
theorem remaining_readLine_le (prompt : Prompt) (w : Workstation) (c : Console) :
    (w.readLine prompt c).2.1.remaining ≤ w.remaining := by
  unfold readLine
  split
  · exact Nat.le_refl _
  · exact Nat.add_le_add_right w.input.remaining_readLine_le _

/-- Reading something leaves less to read. -/
theorem remaining_readLine_lt (prompt : Prompt) (w : Workstation) (c : Console)
    (h : (w.readLine prompt c).1 ≠ .endOfStream) :
    (w.readLine prompt c).2.1.remaining < w.remaining := by
  unfold readLine at h ⊢
  split
  · rename_i hk
    simp [hk] at h
  · rename_i hk
    rw [if_neg hk] at h
    exact Nat.add_lt_add_right
      (w.input.remaining_readLine_lt (w.input.readLine_ne_of_ofRead h)) _

instance : Host Workstation where
  readLine := readLine
  launch := launch
  remaining := remaining
  remaining_readLine_le := remaining_readLine_le
  remaining_readLine_lt := remaining_readLine_lt
  remaining_launch_le _ w _ := w.remaining_after_le _

end Workstation

end RecallShell
