import RecallShell.Machine.Shell.Builtin.Basic

/-!
# Signals and processes left running

Signals are sent by number or by name, and a shell can be told what to do on one. Processes left
running have numbers of their own in the shell that started them, which waits for them when asked to.
-/

namespace RecallShell.Machine

open Text

namespace Builtin

/-- The greatest status that stands for no signal. -/
def statusLimit : Nat := 128

/-! ## Processes left running -/

/-- The batch that a text behind a percent sign asks for, or what is wrong with it. -/
def batchOf (s : Shell) (target : String) : Except String Batch :=
  match target.toList.drop 1 with
  | [] | ['%'] | ['+'] => match s.jobs.head? with
    | some b => .ok b
    | none => .error "No current job"
  | ['-'] => match s.jobs.tail.head? with
    | some b => .ok b
    | none => .error "No previous job"
  | digits =>
    match (String.ofList digits).toNat?.bind fun n => s.jobs.find? fun b => b.number == n with
    | some b => .ok b
    | none => .error s!"No such job: {target}"

/-- The greatest number of a process that a text can write, with a sign or not. -/
def pidOf (target : String) : Sh Int := do
  match target.toList with
  | '-' :: digits => return -(Int.ofNat (← number (String.ofList digits)))
  | _ => return Int.ofNat (← number target)

/-! ## Sending signals -/

/-- How signals are sent, in words. -/
def killUsage : String :=
  "Usage: kill [-s sigspec | -signum | -sigspec] [pid | job]... or\nkill -l [exitstatus]"

/-- Sends a signal to what some arguments ask for, one after the other. -/
def sendAll (signal : Signal) : List String → Nat → Sh Nat
  | [], status => return status
  | target :: rest, status => do
    if ← (Act.signal (← pidOf target) signal : Act Bool) then sendAll signal rest status
    else
      Sh.warn (Errno.noProcess.text ++ "\n")
      sendAll signal rest 1

/-- Names signals by their numbers or by the statuses that stand for them. -/
def listSignals : List String → Sh Nat
  | [] => do
    Sh.say (String.join ("0\n" :: Signal.all.map fun n => Signal.name n ++ "\n"))
    return 0
  | arg :: _ => do
    let n ← number arg
    let n : Signal := (if statusLimit < n then n - statusLimit else n : Nat)
    if Signal.all.contains n then
      Sh.say (Signal.name n ++ "\n")
      return 0
    else misused s!"invalid signal number or exit status: {arg}"

/-- The signal that options ask for, and the operands behind them, unless signals are to be listed. -/
def signalAsked (args : List String) : Sh (Option (Signal × List String)) := do
  let first := args.headD ""
  if !first.startsWith "-" then return some (Signal.terminate, args)
  match (Signal.ofString? (String.ofList (first.toList.drop 1))).filter fun n =>
      n != Signal.exit || first == "-0" with
  | some signal => return some (signal, args.tail)
  | none => do
    let (given, rest) ← options "ls:" args
    if hasOption given 'l' then return none
    match given.getLast? with
    | none => return some (Signal.terminate, rest)
    | some (_, name) =>
      match (Signal.ofString? name).filter fun n => n != Signal.exit || name == "0" with
      | some signal => return some (signal, rest)
      | none => misused s!"invalid signal number or name: {name}"

/-- Sends signals. -/
def kill : Builtin := fun _ args => do
  if args.isEmpty then misused killUsage
  else
    match ← signalAsked args with
    | some (signal, targets) =>
      if targets.isEmpty then misused killUsage else sendAll signal targets 0
    | none => do
      let (_, rest) ← options "ls:" args
      listSignals rest

/-! ## Acting on signals -/

/-- Whether the shell itself sees to interrupts although it has not been told to. -/
def seesInterrupts (s : Shell) : Bool := s.depth == 0 && !s.has 's'

/-- Lets the process react to a signal as the shell has been told to. -/
def heed (signal : Signal) : Sh Unit := do
  let s ← get
  if signal != Signal.exit && !s.deaf.contains signal && !Signal.isUntrappable signal then
    (Act.change fun pid w => w.update pid fun m =>
      let ignored := m.ignored.filter (· != signal)
      let caught := m.caught.filter (· != signal)
      match s.traps.lookup signal with
      | some text =>
        if text.isEmpty then { m with ignored := signal :: ignored, caught }
        else { m with ignored, caught := signal :: caught }
      | none =>
        if signal == Signal.interrupt && seesInterrupts s then
          { m with ignored, caught := signal :: caught }
        else { m with ignored, caught } : Act Unit)

/-- Sets what is done on signals in turn; says which name is none. -/
def setTraps (action : Option String) : List String → Sh (Option String)
  | [] => return none
  | name :: names => do
    let s ← get
    match Signal.ofString? name with
    | none => return some name
    | some signal => do
      let others := s.traps.filter fun t => t.1 != signal
      set { s with traps := match action with
        | some text => others ++ [(signal, text)]
        | none => others }
      heed signal
      setTraps action names

/-- Sets what the shell does on signals, or lists it. -/
def trap : Builtin := fun _ args => do
  let s ← get
  let (_, args) ← options "" args
  match args with
  | [] => do
    Sh.say (String.join ((s.traps.mergeSort fun a b => a.1 ≤ b.1).map fun t =>
      s!"trap -- {quoted t.2} {Signal.name t.1}\n"))
    return 0
  | first :: rest => do
    let isNumber := !first.isEmpty && first.toList.all Char.isDigit
    let resets := rest.isEmpty || (isNumber && (Signal.ofString? first).isSome)
    let action := if resets || first == "-" then none else some first
    match ← setTraps action (if resets then args else rest) with
    | none => return 0
    | some bad => do
      Sh.sayError s!"trap: {bad}: bad trap\n"
      return 1

/-! ## Waiting -/

/-- The signal that has reached the shell and that it is to act on, if there is one. -/
def pendingSignal : Sh (Option Signal) := do
  let s ← get
  let arrived ← (Act.look fun pid w => (w.member pid).arrived : Act _)
  return arrived.find? fun signal => (s.traps.lookup signal).any fun t => !t.isEmpty

/-- Waits until a batch of those asked for is over, or until a signal comes that the shell acts on. -/
def awaitBatch (asked : Batch → Bool) : Nat → Sh (Option Signal)
  | 0 => return none
  | turns + 1 => do
    Sh.collect
    match ← pendingSignal with
    | some signal => return some signal
    | none => do
      let s ← get
      let running := (s.jobs.filter fun b => asked b && !b.isOver).flatMap fun b =>
        b.parts.filterMap fun p => if p.ending.isNone then some p.pid else none
      if running.isEmpty then return none
      let heeded := s.traps.filterMap fun t => if t.2.isEmpty then none else some t.1
      (Act.waitFor fun pid w =>
        (w.endedChild? pid running.contains).isSome || !w.hasChild pid running.contains
          || (w.member pid).arrived.any heeded.contains : Act Unit)
      awaitBatch asked turns

/-- Waits for a batch, and tells of the signal that ended it. -/
def awaitNumbered (number : Nat) : Sh Nat := do
  match ← awaitBatch (fun b => b.number == number) Act.endless with
  | some signal => return statusLimit + signal.toNat
  | none => do
    let s ← get
    let ending? := (s.jobs.find? fun b => b.number == number).bind Batch.ending?
    modify fun s => { s with jobs := s.jobs.map fun b =>
      if b.number == number then { b with waited := true } else b }
    return (ending?.map Sh.statusOf).getD 0

/-- Waits for what some arguments ask for, one after the other. -/
def awaitTargets : List String → Nat → Sh Nat
  | [], status => return status
  | target :: rest, status => do
    let s ← get
    if target.startsWith "%" then
      match batchOf s target with
      | .ok b => do
        let status ← awaitNumbered b.number
        awaitTargets rest status
      | .error text => misused text
    else
      let pid : Int := ((← number target) : Nat)
      match s.jobs.find? fun b => (b.parts.getLast?.map (·.pid)) == some pid with
      | some b => do
        let status ← awaitNumbered b.number
        awaitTargets rest status
      | none => awaitTargets rest status

/-- Waits for processes left running. -/
def wait : Builtin := fun _ args => do
  let (_, args) ← options "" args
  match args with
  | [] => do
    let interrupted ← awaitBatch (fun _ => true) Act.endless
    modify fun s => { s with
      jobs := s.jobs.map fun b => { b with waited := b.waited || b.isOver } }
    return match interrupted with
      | some signal => statusLimit + signal.toNat
      | none => 0
  | args => awaitTargets args Sh.notFound

/-! ## Lists -/

/-- Lists the processes left running. -/
def jobs : Builtin := fun _ _ => do
  Sh.tellOf
  return 0

end Builtin

end RecallShell.Machine
