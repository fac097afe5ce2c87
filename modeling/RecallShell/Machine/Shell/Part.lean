import RecallShell.Machine.Shell.Builtin

/-!
# Shells within shells

A part of a shell works in a process of its own, as the same shell with the same variables. It has
neither the processes that the shell has left running nor what the shell is to do on signals, and its
end is not the end of the shell. What statements write is read from such a part.
-/

namespace RecallShell.Machine

open Text

namespace Sh

/-! ## Processes that work as a shell -/

/-- What a process does that works as a shell. -/
def activity (s : Shell) (work : Sh Unit) : Activity :=
  Act.run (StateT.run (ExceptT.run work) s) fun _ => .ended (.code 0)

/-- Starts a child that works as the same shell. -/
def spawn (work : Sh Unit) : Sh Pid := do
  let s ← get
  (Act.fork (activity s work) : Act Pid)

/-- Does something and says what stopped it, if anything did. -/
def stopOf (work : Sh Unit) : Sh (Option Stop) :=
  tryCatch (do work; return none) fun stop => return some stop

/-- Ends the process as a signal does. -/
def endBy (signal : Signal) : Sh Unit := do
  (show Act Unit from fun _ => .ended (.signal signal) : Act Unit)

/-- Ends the shell; what is to be done at its end is done first. -/
def leave (r : Runner) : Sh Unit := do
  let s ← get
  match s.traps.lookup Signal.exit with
  | some text =>
    if !text.isEmpty then
      set { s with
        traps := s.traps.filter fun t => t.1 != Signal.exit
        kept := some s.status
        loops := 0
        command := none }
      match ← stopOf (runText r ⟨false, false⟩ .evaluated text) with
      | some .exits | some .fault => pure ()
      | _ => setStatus s.status
  | none => pure ()
  flush
  (Act.exit (← get).status : Act Unit)

/-- Works as a shell to its end. -/
def live (r : Runner) (work : Sh Unit) : Sh Unit := do
  discard <| stopOf work
  leave r

/-- The shell that is a part of another one. -/
def part (s : Shell) : Shell :=
  { s with
    depth := s.depth + 1
    traps := s.traps.filter fun t => t.2.isEmpty
    jobs := []
    loops := 0
    kept := none
    out := ""
    script := none }

/-- Turns the process into a part of the shell. One that is left running finds nothing to read and
ignores what a user sends. -/
def becomePart (detached first : Bool) : Sh Unit := do
  let script := (← get).script
  modify part
  (Act.change fun pid w =>
    let w := match script with
      | some descriptor => w.close pid descriptor
      | none => w
    w.update pid fun m =>
      let heard := m.ignored.filter fun n => n != Signal.interrupt && n != Signal.quit
      { m with
        caught := []
        arrived := []
        ignored := if detached then Signal.interrupt :: Signal.quit :: heard else m.ignored } : Act Unit)
  if detached && first then
    match ← (Act.open_ "/dev/null" .input : Act _) with
    | .ok input => moveTo input 0
    | .error _ => pure ()

/-! ## Signals -/

/-- Acts on the signals that have reached the shell. -/
def handleSignals (r : Runner) : Sh Unit := do
  let arrived ← (Act.look fun pid w => (w.member pid).arrived : Act _)
  if !arrived.isEmpty then
    (Act.change fun pid w => w.update pid fun m => { m with arrived := [] } : Act Unit)
    (arrived.mergeSort fun a b => a ≤ b).forM fun signal => do
      let s ← get
      match s.traps.lookup signal with
      | some text => do
        set { s with kept := s.kept.orElse fun _ => some s.status }
        runText r ⟨false, false⟩ .evaluated text
        modify fun t => { t with status := s.status, kept := s.kept }
      | none => if signal == Signal.interrupt then endBy signal

/-! ## What statements write -/

/-- Lets a descriptor of the process lead into a pipe, whose other end is closed. -/
def joinPipe (end_ other target : Nat) : Sh Unit := do
  (Act.close other : Act Unit)
  moveTo end_ target

/-- A text without the line ends behind it. -/
def withoutEnds (text : String) : String :=
  let cs := text.toList.filter (· != '\x00')
  String.ofList (cs.reverse.dropWhile (· == '\n')).reverse

/-- Runs statements for what they write. -/
def capture (r : Runner) (body : List Statement) : Sh String := do
  if body.isEmpty then return ""
  let (input, output) ← (Act.step fun pid w => w.pipe pid : Act _)
  let child ← spawn do
    becomePart false true
    joinPipe output input 1
    live r (runList r ⟨false, true⟩ body)
  (Act.close output : Act Unit)
  let text ← (Act.readAll input : Act _)
  (Act.close input : Act Unit)
  let statuses ← awaitAll [child]
  modify fun s => { s with substituted := statuses.headD 0 }
  return withoutEnds (text.toOption.getD "")

/-- How expansion runs statements. -/
def engineOf (r : Runner) : Engine where
  capture := capture r

end Sh

end RecallShell.Machine
