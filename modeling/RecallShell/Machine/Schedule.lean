import RecallShell.Launch.Kernel
import RecallShell.Machine.Program

/-!
# Running the machine

Each process does its activity step by step, and every step takes its time. Of all processes that can
go on, the one whose time comes first does its next step, and the clock goes on with it. A launch
starts a process and lets the machine run until waiting for that process comes to something.
-/

namespace RecallShell.Machine

open Text

/-- A process at work. -/
structure Process where
  /-- Its number. -/
  pid : Pid
  /-- When it can do its next step, in microseconds. -/
  due : Nat
  /-- What it does from here on. -/
  activity : Activity
  deriving Inhabited

/-- A machine at work. -/
structure Computer where
  /-- What its processes share. -/
  world : World
  /-- Its processes, in the order in which they were started. -/
  processes : List Process
  /-- The environment that the session starts programs in. -/
  environment : List (String × String)
  /-- The open file that the programs of the session find on their standard input. -/
  input : Nat
  deriving Inhabited

/-- The time that a step takes, in microseconds. -/
def stepTime : Nat := 2

/-- The time that starting a process takes. -/
def forkTime : Nat := 120

/-- The time from the start of a process to its first step. -/
def birthTime : Nat := 60

/-- The time that becoming a program takes. -/
def loadTime : Nat := 450

namespace Computer

/-- The time, in microseconds. -/
def clock (c : Computer) : Nat := c.world.clock

/-- The machine at a later time. -/
def at_ (c : Computer) (time : Nat) : Computer :=
  { c with world := { c.world with disk := { c.world.disk with clock := max c.clock time } } }

/-- Whether a process has neither ended nor been stopped. -/
def isGoing (w : World) (pid : Pid) : Bool :=
  match w.member? pid with
  | some m => m.stage == .going
  | none => false

/-- Whether a process is there and has not ended. -/
def isAlive (w : World) (pid : Pid) : Bool :=
  match w.member? pid with
  | some m => match m.stage with
    | .ended _ => false
    | _ => true
  | none => false

/-- When a process can go on, if it can. -/
def time? (w : World) (p : Process) : Option Nat :=
  if !isGoing w p.pid then none
  else
    match p.activity with
    | .await deadline ready _ => if ready p.pid w then some p.due else deadline.map (max p.due ·)
    | _ => some p.due

/-- The process whose time comes first, and that time; of several the one started first. -/
def next? (c : Computer) : Option (Process × Nat) :=
  c.processes.foldl (fun best p =>
    match time? c.world p, best with
    | some t, some b => if t < b.2 then some (p, t) else best
    | some t, none => some (p, t)
    | none, _ => best) none

/-- Puts a process in place of the one of its number. -/
def replace (c : Computer) (p : Process) : Computer :=
  { c with processes := c.processes.map fun q => if q.pid == p.pid then p else q }

/-- Forgets what processes would do that have ended. -/
def sweep (c : Computer) : Computer :=
  { c with processes := c.processes.filter fun p => isAlive c.world p.pid }

/-- Lets a process do one step. -/
def step (c : Computer) (p : Process) : Activity → Computer
  | .ended status => { c with world := c.world.finish p.pid status }
  | .step run =>
    let (world, next) := run p.pid c.world
    ({ c with world }).replace { p with due := c.clock + stepTime, activity := next }
  | .await _ _ next => c.replace { p with due := c.clock, activity := next }
  | .fork child next =>
    let (pid, world) := c.world.fork p.pid
    let due := c.clock + forkTime
    let c := ({ c with world }).replace { p with due, activity := next pid }
    { c with processes := c.processes ++ [⟨pid, due + birthTime, child⟩] }
  | .become program =>
    let world := c.world.become p.pid program.argv
    ({ c with world }).replace
      { p with due := c.clock + loadTime, activity := activityOf program }

/-- Lets the next process do one step, if any can. -/
def tick? (c : Computer) : Option Computer :=
  c.next?.map fun (p, time) =>
    let c := c.at_ time
    let c := match p.activity with
      | .await _ _ next => c.step { p with due := c.clock } next
      | activity => c.step p activity
    c.sweep

/-- Lets processes go on until a condition holds or none can. -/
def runUntil (stop : Computer → Bool) : Nat → Computer → Computer
  | 0, c => c
  | fuel + 1, c =>
    if stop c then c
    else
      match c.tick? with
      | some c => runUntil stop fuel c
      | none => c

/-- The number of steps before a machine gives up. -/
def endurance : Nat := 50000000

/-- Lets all processes go on to their ends. -/
def settle (c : Computer) : Computer := runUntil (fun _ => false) endurance c

/-- The machine after the session has taken all reports of its children. -/
def heard (c : Computer) : Computer := { c with world := { c.world with reports := [] } }

/-- Whether a process can write to something that leads out of the machine. -/
def leadsOut (c : Computer) : Bool :=
  c.world.opened.toList.any fun o =>
    match (c.world.disk.node o.node).body with
    | .outlet _ => c.world.hasWriters o.node
    | _ => false

/-- Lets processes go on as long as anyone can write out of the machine. -/
def drain (c : Computer) : Computer := runUntil (fun c => !c.leadsOut) endurance c

/-- Whether some child of the session has not ended. -/
def hasChildren (c : Computer) : Bool := c.world.members.any fun m => m.parent == sessionPid

/-- Whether waiting for a child comes to something by now. -/
def isDecided (child : Pid) (c : Computer) : Bool :=
  c.world.killed.isSome || match awaitChild child c.world.reports with
    | (.error number, []) => number != .noChild || !c.hasChildren
    | _ => true

/-! ## Launching -/

/-- Opens a node without a name: the number of the open file. -/
def openUnnamed (w : World) (body : Body) (reads : Bool) : Nat × World :=
  let node := w.disk.next
  let w := { w with disk := w.disk.add body 0o600 }
  w.openNode ⟨node, 0, reads, !reads, false⟩

/-- The number of the outlet for the standard output or the standard error of a launch. -/
def outletOf (launch : Nat) (toError : Bool) : Nat := 2 * launch + (if toError then 1 else 0)

/-- The status of a process that could not become the program that it was started for. -/
def couldNotStart : Nat := 255

/-- What a process does that has been started for a program. -/
def startOf (argv : List String) (environment : List (String × String)) : Act Unit := do
  let d ← Act.disk
  let search := (environment.lookup "PATH").getD defaultSearchPath
  match findProgram d search argv environment with
  | .ok program => Act.become program
  | .error _ => do
    let name := argv.headD ""
    discard <| Act.write 2 s!"{name}: exec failed\n"
    Act.exit couldNotStart

/-- Starts a process for arguments. It ignores that it writes where nobody reads. -/
def spawn (c : Computer) (launch : Nat) (args : List String) : Pid × Computer :=
  let argv := args.map fun a => octets (encode a)
  let pid := c.world.nextPid
  let (out, w) := openUnnamed c.world (.outlet (outletOf launch false)) false
  let (err, w) := openUnnamed w (.outlet (outletOf launch true)) false
  let m : Member :=
    { pid, parent := sessionPid, group := sessionGroup
      directory := w.disk.here
      mask := w.disk.mask
      descriptors := [(0, c.input), (1, out), (2, err)]
      fleeting := []
      ignored := [Signal.pipe]
      caught := []
      arrived := []
      stage := .going
      limits := []
      argv }
  let activity := (startOf argv c.environment).run fun _ => .ended (.code 0)
  (pid, { c with
    world := { w with nextPid := pid + 1, members := w.members ++ [m] }
    processes := c.processes ++ [⟨pid, c.clock + forkTime + birthTime, activity⟩] })

/-- Launches a command: the child is started, the others go on while it is waited for, and the
reports that come decide. -/
def launch (c : Computer) (number : Nat) (command : Command) :
    Except ShellError Launched × Computer :=
  match command.argv with
  | .error e => (.error e, c)
  | .ok _ =>
    let (child, c) := c.spawn number command.args
    let c := if command.background then c.at_ (c.clock + forkTime)
      else runUntil (isDecided child) endurance c
    let (result, kernel) := Kernel.launch ⟨[.ok child], c.world.reports⟩ command
    (result, { c with world := { c.world with reports := kernel.reports } })

/-- What a launch has written so far to one of its two outputs. -/
def output (c : Computer) (number : Nat) (toError : Bool) : Bytes :=
  c.world.written.toList.flatMap fun w =>
    if w.outlet == outletOf number toError then w.data else []

end Computer

/-- The environment of a machine about which nothing else is said. -/
def plainEnvironment : List (String × String) :=
  [("HOME", "/root"), ("LC_CTYPE", "C.UTF-8"), ("PATH", searchPath)]

/-- A machine without processes, whose programs find some file on their standard input. -/
def Computer.idle (disk : Disk) (input : NodeId) (environment : List (String × String)) :
    Computer :=
  let (number, world) := (World.idle disk).openNode ⟨input, 0, true, false, false⟩
  { world, processes := [], environment, input := number }

end RecallShell.Machine
