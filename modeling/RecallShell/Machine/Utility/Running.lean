import RecallShell.Machine.Escapes
import RecallShell.Machine.Signal
import RecallShell.Machine.Utility.Source

/-!
# Utilities that run programs

These utilities become a program, or start one and wait for it: in another environment, for a limited
time, in a group of its own, or with arguments that are read. `sleep` lets time pass.
-/

namespace RecallShell.Machine

open Text Work

/-! ## Programs -/

/-- The status of a program that could not be run. -/
def cannotRun (e : Errno) : Nat := if e == .noEntry then 127 else 126

/-- The values of an environment with one of them changed, in its place or behind the others. -/
def withValue (environment : List (String × String)) (name value : String) :
    List (String × String) :=
  if (environment.lookup name).isSome then
    environment.map fun v => if v.1 == name then (name, value) else v
  else environment ++ [(name, value)]

/-- Becomes the program of some arguments, or says why that cannot be. -/
def becomeProgram (argv : List String) (environment : List (String × String)) : Act Errno := do
  let d ← Act.disk
  let search := (environment.lookup "PATH").getD defaultSearchPath
  match findProgram d search argv environment with
  | .ok program => Act.become program
  | .error e => return e

/-- Becomes a program; where that cannot be, something is said and the status tells why. -/
def replaceBy (argv : List String) (environment : List (String × String))
    (refusal : Errno → Work Unit) : Work Unit := do
  flush
  let e ← (becomeProgram argv environment : Act _)
  refusal e
  exit (cannotRun e)

/-- Starts a process that does something first and then becomes a program; where that cannot be, it
says why and ends. -/
def startProgram (before : Act Unit) (argv : List String) (environment : List (String × String))
    (refusal : Errno → Option String) : Work Pid := do
  flush
  let child : Act Unit := do
    before
    let e ← becomeProgram argv environment
    match refusal e with
    | some text => discard <| Act.write 2 text
    | none => pure ()
    Act.exit (cannotRun e)
  (Act.fork (child.run fun _ => .ended (.code 0)) : Act _)

/-- The status by which a shell tells how a process ended. -/
def plainStatus : ExitStatus → Nat
  | .code n => (n % 256).toNat
  | .signal n => 128 + n.toNat

/-- Lets a descriptor of the process stand for an open path. -/
def redirectTo (descriptor : Nat) (path : String) (access : Access) : Act Unit := do
  match ← Act.open_ path access with
  | .ok opened =>
    if opened != descriptor then
      discard <| Act.step fun pid w => w.duplicate pid opened descriptor false
      Act.close opened
  | .error _ => pure ()

/-! ## Environments -/

/-- The signal that a number or a name stands for, perhaps in its long form. -/
def signalNamed? (text : String) : Option Signal :=
  let upper := text.toUpper
  Signal.ofString? (if upper.startsWith "SIG" then String.ofList (upper.toList.drop 3) else upper)

/-- The status of a utility that fails before it runs a program. -/
def canceled : Nat := 125

/-- Takes values off the front of some operands: the environment with them, and the operands left. -/
def withValues (environment : List (String × String)) :
    List String → List (String × String) × List String
  | [] => (environment, [])
  | operand :: operands =>
    let name := operand.toList.takeWhile (· != '=')
    if name.length == operand.length then (environment, operand :: operands)
    else
      let value := String.ofList (operand.toList.drop (name.length + 1))
      withValues (withValue environment (String.ofList name) value) operands

/-- Enters a directory. -/
def enter (path : String) : Work Unit := do
  let refuse (e : Errno) : Work Unit :=
    die (because s!"cannot change directory to {Quoting.always path}" e) canceled
  match ← statusOf true path with
  | .error e => refuse e
  | .ok (id, node) =>
    if node.isDirectory then
      (Act.change fun pid w => w.update pid fun m => { m with directory := id } : Act Unit)
    else refuse .notDirectory

/-- Runs a program in a changed environment, or writes the environment. -/
def env : Utility := fun i =>
  let table : OptionTable := .leading "i0" "uC" [("ignore-environment", 'i'), ("null", '0'),
    ("unset", 'u'), ("chdir", 'C')]
  table.run i.args canceled fun a => do
    let (clears, operands) := match a.operands with
      | "-" :: operands => (true, operands)
      | operands => (a.has 'i', operands)
    let start := if clears then [] else i.environment
    let start := start.filter fun v => !(a.values 'u').contains v.1
    let (environment, argv) := withValues start operands
    if a.has '0' && !argv.isEmpty then
      misused "cannot specify --null (-0) with command" canceled
    if let some path := a.value? 'C' then enter path
    match argv with
    | [] =>
      let ending := if a.has '0' then "\x00" else "\n"
      forEach environment fun v => say s!"{v.1}={v.2}{ending}"
    | program :: _ =>
      replaceBy argv environment fun e => do complain (because (← quote program) e) 0

/-- Runs a program; that it gets a lower priority is not seen. -/
def nice : Utility := fun i =>
  let table : OptionTable := .leading "" "n" [("adjustment", 'n')]
  table.run i.args canceled fun a => do
    match a.operands with
    | [] => sayLine "0"
    | program :: _ =>
      replaceBy a.operands i.environment fun e => do complain (because (← quote program) e) 0

/-- Runs a program in a group of its own. -/
def setsid : Utility := fun i =>
  let table : OptionTable := .leading "f" "" [("fork", 'f')]
  table.run i.args 1 fun a => do
    let program := a.operands.headD ""
    let refusal (e : Errno) : String := because s!"failed to execute {program}" e
    let apart : Act Unit := Act.change fun pid w => w.update pid fun m => { m with group := pid }
    let leads ← (Act.look fun pid w => (w.member pid).group == pid : Act Bool)
    if a.operands.isEmpty then misused "no command specified" 1
    if a.has 'f' || leads then
      discard <| startProgram apart a.operands i.environment fun e =>
        some s!"{i.name}: {refusal e}\n"
    else do
      (apart : Act Unit)
      replaceBy a.operands i.environment fun e => complain (refusal e) 0

/-! ## Time -/

/-- Lets time pass. -/
def sleep : Utility := fun i =>
  let table : OptionTable := .of "" "" []
  table.run i.args 1 fun a => do
    if a.operands.isEmpty then misused "missing operand" 1
    let bad := a.operands.filter fun o => (duration? o).isNone
    forEach bad fun o => do complain s!"invalid time interval {← quote o}" 1
    if !bad.isEmpty then
      sayError (helpHint (← Work.name) ++ "\n")
      exit 1
    (Act.pause ((a.operands.filterMap duration?).foldl (· + ·) 0) : Act Unit)

/-- Sends a signal to a program and to the group that it belongs to. -/
def sendToGroup (child : Pid) (signal : Signal) : Act Unit := do
  let send (signal : Signal) : Act Unit := do
    discard <| Act.signal child signal
    discard <| Act.signal 0 signal
  Act.change fun pid w => w.update pid fun m => { m with ignored := signal :: m.ignored }
  send signal
  if signal != Signal.kill && signal != Signal.continue_ then send Signal.continue_

/-- Waits for a program until its time is over, when a signal is sent, or a signal arrives, which is
passed on; says how it ended, and whether it was late. -/
def watch (child : Pid) (signal : Signal) : Nat → Option Nat → Bool → Act (ExitStatus × Bool)
  | 0, _, late => return (.code 0, late)
  | turns + 1, deadline, late => do
    Act.waitUntil deadline fun pid w =>
      (w.endedChild? pid (· == child)).isSome || !(w.member pid).arrived.isEmpty
    let ended ← Act.look fun pid w => (w.endedChild? pid (· == child)).isSome
    if ended then return (← Act.waitChild child, late)
    let now ← Act.clock
    let arrived ← Act.step fun pid w =>
      ((w.member pid).arrived, w.update pid fun m => { m with arrived := [] })
    match arrived with
    | arrived :: _ => do
      sendToGroup child arrived
      watch child signal turns none late
    | [] =>
      if deadline.any (· ≤ now) then
        sendToGroup child signal
        watch child signal turns none true
      else watch child signal turns deadline late

/-- Runs a program for a limited time. -/
def timeout : Utility := fun i =>
  let table : OptionTable := .leading "" "s" [("signal", 's')]
  table.run i.args canceled fun a => do
    let name := (a.value? 's').getD "TERM"
    match signalNamed? name, a.operands with
    | none, _ => do misused s!"{← quote name}: invalid signal" canceled
    | _, [] | _, [_] => misused "missing operand" canceled
    | some signal, time :: argv =>
      match duration? time with
      | none => misused s!"invalid time interval {← quote time}" canceled
      | some duration => do
        (Act.change fun pid w => w.update pid fun m =>
          { m with
            group := pid
            caught := [Signal.interrupt, Signal.quit, Signal.hangup, Signal.terminate, signal] } :
          Act Unit)
        let program ← quote (argv.headD "")
        let child ← startProgram (pure ()) argv i.environment fun e =>
          some (s!"{i.name}: " ++ because s!"failed to run command {program}" e ++ "\n")
        let now ← (Act.clock : Act _)
        let deadline := if duration == 0 then none else some (now + duration)
        let (status, late) ← (watch child signal Act.endless deadline false : Act _)
        match status with
        | .code _ => setStatus (if late then 124 else plainStatus status)
        | .signal n =>
          if !late then
            flush
            (show Act Unit from fun _ => .ended (.signal n) : Act Unit)
          else setStatus (if n == Signal.kill then plainStatus status else 124)

/-! ## Arguments that are read -/

/-- The words of a text, in which quotes and backslashes protect blanks, the last one first; the
characters of the word that is being read come last first. -/
def quotedWords : List Char → Option (List Char) → Option Char → List String →
    Except Char (List String)
  | [], _, some quote, _ => .error quote
  | [], word, none, found => .ok (ended word found)
  | '\\' :: c :: cs, word, none, found => quotedWords cs (some (c :: word.getD [])) none found
  | c :: cs, word, some quote, found =>
    if c == quote then quotedWords cs (some (word.getD [])) none found
    else if c == '\n' then .error quote
    else quotedWords cs (some (c :: word.getD [])) (some quote) found
  | c :: cs, word, none, found =>
    if c == '\x27' || c == '"' then quotedWords cs (some (word.getD [])) (some c) found
    else if c == ' ' || c == '\t' || c == '\n' then quotedWords cs none none (ended word found)
    else quotedWords cs (some (c :: word.getD [])) none found
where
  /-- Words with one more in front, if it was begun. -/
  ended (word : Option (List Char)) (found : List String) : List String :=
    (word.map fun w => String.ofList w.reverse).toList ++ found

/-- Cuts a list into pieces of a size. -/
def piecesOfSize {α : Type} (size : Nat) : Nat → List α → List (List α)
  | 0, _ | _, [] => []
  | fuel + 1, xs => xs.take (max size 1) :: piecesOfSize size fuel (xs.drop (max size 1))

/-- Runs a program once; says whether to go on. -/
def runOnce (i : Invocation) (keepsInput : Bool) (argv : List String) : Work Bool := do
  let program := argv.headD ""
  let search := (i.environment.lookup "PATH").getD defaultSearchPath
  let isRefused := !(findProgram (← (Act.disk : Act _)) search argv i.environment).toBool
  let before : Act Unit := if keepsInput then pure () else redirectTo 0 "/dev/null" .input
  let child ← startProgram before argv i.environment fun e =>
    some s!"{i.name}: {because program e}\n"
  match ← (Act.waitChild child : Act _) with
  | .code status => do
    if isRefused then fail status.toNat
    else if status == 255 then complain s!"{program}: exited with status 255; aborting" 124
    else if status != 0 then fail 123
    return !isRefused && status != 255
  | .signal signal => do
    complain s!"{program}: terminated by signal {signal}" 125
    return false

/-- Runs programs as long as nothing is wrong. -/
def runWhile (run : List String → Work Bool) : List (List String) → Work Unit
  | [] => pure ()
  | argv :: rest => do if ← run argv then runWhile run rest

/-- Runs a program with arguments that are read. -/
def xargs : Utility := fun i =>
  let table : OptionTable := .leading "" "an" [("arg-file", 'a'), ("max-args", 'n')]
  table.run i.args 1 fun a => do
    let path := (a.value? 'a').getD "-"
    match ← contentOf path with
    | .error e => die (because s!"Cannot open input file {← quote path}" e) 1
    | .ok text =>
      match quotedWords text.toList none none [] with
      | .error q =>
        let kind := if q == '"' then "double" else "single"
        let rule := "by default quotes are special to xargs unless you use the -0 option"
        die s!"unmatched {kind} quote; {rule}" 1
      | .ok found =>
        let words := found.reverse
        let command := if a.operands.isEmpty then ["echo"] else a.operands
        let pieces := match (a.value? 'n').bind natural? with
          | some n => piecesOfSize n (words.length + 1) words
          | none => [words]
        runWhile (runOnce i (a.has 'a')) (pieces.map (command ++ ·))

end RecallShell.Machine
