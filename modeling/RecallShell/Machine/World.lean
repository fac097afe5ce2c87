import RecallShell.Disk.Standard
import RecallShell.Launch.Reaping
import RecallShell.Machine.Signal
import RecallShell.Text.Octets

/-!
# The world that processes share

The disk, the files that are open, and what is known about each process. Several descriptors, of one
process or of many, can share an open file and with it the position in that file. What processes send
out of the machine is kept in order.
-/

namespace RecallShell.Machine

open Text

/-- A file that is open. -/
structure Opened where
  /-- The node it is open on. -/
  node : NodeId
  /-- The position in it. -/
  offset : Nat
  /-- Whether it can be read. -/
  reads : Bool
  /-- Whether it can be written. -/
  writes : Bool
  /-- Whether every write goes behind what it holds. -/
  appends : Bool
  deriving DecidableEq, Repr, Inhabited

/-- How a process is getting on. -/
inductive Stage where
  /-- It goes on. -/
  | going
  /-- A signal has stopped it. -/
  | stopped
  /-- It has ended, and nobody has been told. -/
  | ended (status : ExitStatus)
  deriving DecidableEq, Repr, Inhabited

/-- What is known about a process. -/
structure Member where
  /-- Its number. -/
  pid : Pid
  /-- The number of the process that started it, or that has inherited it. -/
  parent : Pid
  /-- The group of processes that it belongs to. -/
  group : Pid
  /-- Its working directory. -/
  directory : NodeId
  /-- The permissions that its new files do not get. -/
  mask : Nat
  /-- Its descriptors, with the numbers of the open files that they stand for. -/
  descriptors : List (Nat × Nat)
  /-- The descriptors that it loses when it becomes another program. -/
  fleeting : List Nat
  /-- The signals that it ignores. -/
  ignored : List Signal
  /-- The signals that it acts on by itself. -/
  caught : List Signal
  /-- The signals of those that have reached it. -/
  arrived : List Signal
  /-- How it is getting on. -/
  stage : Stage
  /-- What it may use at most, by letter. -/
  limits : List (Char × Nat)
  /-- The arguments it was started with. -/
  argv : List String
  deriving DecidableEq, Repr, Inhabited

/-- Bytes that processes sent out of the machine. -/
structure Written where
  /-- The number of the outlet. -/
  outlet : Nat
  /-- The bytes. -/
  data : Bytes
  deriving DecidableEq, Repr, Inhabited

/-- What all processes of the machine share. -/
structure World where
  /-- The disk; its clock is the clock of the machine. -/
  disk : Disk
  /-- The open files by number. -/
  opened : Array Opened
  /-- The processes that have not ended, or of which that has not been told. -/
  members : List Member
  /-- The number of the next process. -/
  nextPid : Pid
  /-- The children of the session that have ended and have not been waited for. -/
  reports : List WaitReport
  /-- Whether ends of children of the session are not reported. -/
  ignoresChildren : Bool
  /-- What was sent out of the machine, in order. -/
  written : Array Written
  /-- Whether a child has sent the session an interrupt signal. -/
  interrupted : Bool
  /-- The signal by which a child has ended the session, if one has. -/
  killed : Option Signal

/-- The number of the session's own process. -/
def sessionPid : Pid := 1000

/-- The group of processes that the session belongs to. -/
def sessionGroup : Pid := 990

/-- The number of the process that inherits the children of those that end before them. -/
def firstPid : Pid := 1

namespace World

/-- A world without processes. -/
def idle (disk : Disk) : World where
  disk := disk
  opened := #[]
  members := []
  nextPid := sessionPid + 1
  reports := []
  ignoresChildren := false
  written := #[]
  interrupted := false
  killed := none

instance : Inhabited World := ⟨idle default⟩

/-- The time, in microseconds. -/
def clock (w : World) : Nat := w.disk.clock

/-- What is known about a process. -/
def member? (w : World) (pid : Pid) : Option Member := w.members.find? fun m => m.pid == pid

/-- What is known about a process; nothing much if it is not there. -/
def member (w : World) (pid : Pid) : Member := (w.member? pid).getD default

/-- Changes what is known about a process. -/
def update (w : World) (pid : Pid) (change : Member → Member) : World :=
  { w with members := w.members.map fun m => if m.pid == pid then change m else m }

/-! ## Open files -/

/-- The open file that a descriptor of a process stands for. -/
def opening? (w : World) (pid : Pid) (descriptor : Nat) : Option (Nat × Opened) :=
  ((w.member pid).descriptors.lookup descriptor).bind fun number =>
    w.opened[number]?.map fun o => (number, o)

/-- The node that a descriptor of a process is open on. -/
def nodeOf? (w : World) (pid : Pid) (descriptor : Nat) : Option NodeId :=
  (w.opening? pid descriptor).map fun o => o.2.node

/-- Whether any process that goes on has a node open in some way. -/
def holds (w : World) (node : NodeId) (way : Opened → Bool) : Bool :=
  w.members.any fun m =>
    (match m.stage with | .ended _ => false | _ => true) &&
      m.descriptors.any fun d => match w.opened[d.2]? with
        | some o => o.node == node && way o
        | none => false

/-- Whether a node can be written by anyone. -/
def hasWriters (w : World) (node : NodeId) : Bool := w.holds node (·.writes)

/-- Whether a node can be read by anyone. -/
def hasReaders (w : World) (node : NodeId) : Bool := w.holds node (·.reads)

/-- The least descriptor of a process from some number on that is not open. -/
def freeDescriptor (w : World) (pid : Pid) (least : Nat) : Nat :=
  let taken := (w.member pid).descriptors
  ((List.range (taken.length + 1)).find? fun n => (taken.lookup (least + n)).isNone).getD 0 + least

/-- Lets a descriptor of a process stand for an open file. -/
def connect (w : World) (pid : Pid) (descriptor number : Nat) (fleeting : Bool) : World :=
  w.update pid fun m =>
    let others := m.fleeting.filter (· != descriptor)
    { m with
      descriptors := (descriptor, number) :: m.descriptors.filter fun d => d.1 != descriptor
      fleeting := if fleeting then descriptor :: others else others }

/-- Closes a descriptor of a process. -/
def close (w : World) (pid : Pid) (descriptor : Nat) : World :=
  w.update pid fun m =>
    { m with
      descriptors := m.descriptors.filter fun d => d.1 != descriptor
      fleeting := m.fleeting.filter (· != descriptor) }

/-- Opens a node, for no process yet: the number of the open file. -/
def openNode (w : World) (o : Opened) : Nat × World :=
  (w.opened.size, { w with opened := w.opened.push o })

/-- The disk as a process sees it: from its directory, with its mask and its descriptors. -/
def diskOf (w : World) (pid : Pid) : Disk :=
  let m := w.member pid
  let view := m.descriptors.filterMap fun d => w.opened[d.2]?.map fun o => (d.1, o.node)
  { w.disk.withDescriptors view with here := m.directory, mask := m.mask }

/-- Leaves the disk as a process has changed it. -/
def withDisk (w : World) (disk : Disk) : World :=
  { w with disk := { disk with here := w.disk.here, mask := w.disk.mask } }

/-! ## Processes -/

/-- Adds a process that is like another one; its own number is new. -/
def fork (w : World) (parent : Pid) : Pid × World :=
  let m := w.member parent
  let pid := w.nextPid
  (pid, { w with
    nextPid := pid + 1
    members := w.members ++ [{ m with pid := pid, parent := parent, arrived := [] }] })

/-- A process becomes another program. -/
def become (w : World) (pid : Pid) (argv : List String) : World :=
  w.update pid fun m =>
    { m with
      descriptors := m.descriptors.filter fun d => !m.fleeting.contains d.1
      fleeting := []
      caught := []
      arrived := []
      argv := argv }

/-- The number of exit statuses. -/
def statusCount : Int := 256

/-- A process has ended. Its children go to the first process, which asks for nothing; the session
and other parents are told when they ask. -/
def finish (w : World) (pid : Pid) (status : ExitStatus) : World :=
  let status := match status with
    | .code value => ExitStatus.code (value % statusCount)
    | signal => signal
  let m := w.member pid
  let isOver (m : Member) : Bool := match m.stage with | .ended _ => true | _ => false
  let others := (w.members.filter fun c => !(c.parent == pid && isOver c)).map fun c =>
    if c.parent == pid then { c with parent := firstPid } else c
  if m.parent == sessionPid then
    let w := { w with members := others.filter fun c => c.pid != pid }
    if w.ignoresChildren then w
    else { w with reports := w.reports ++ [WaitReport.ofStatus pid status] }
  else if others.any fun c => c.pid == m.parent && !isOver c then
    let w := { w with members := others.map fun (c : Member) =>
      if c.pid == pid then { c with stage := .ended status, descriptors := [] } else c }
    w.update m.parent fun p =>
      if p.caught.contains Signal.child && !p.arrived.contains Signal.child then
        { p with arrived := p.arrived ++ [Signal.child] }
      else p
  else { w with members := others.filter fun c => c.pid != pid }

/-- A child that has ended: which one it may be, and how it ended. -/
def endedChild? (w : World) (pid : Pid) (child : Pid → Bool) : Option (Pid × ExitStatus) :=
  w.members.findSome? fun m =>
    if m.parent == pid && child m.pid then
      match m.stage with
      | .ended status => some (m.pid, status)
      | _ => none
    else none

/-- Whether a process has children of a kind. -/
def hasChild (w : World) (pid : Pid) (child : Pid → Bool) : Bool :=
  w.members.any fun m => m.parent == pid && child m.pid

/-- Forgets a process that has ended. -/
def forget (w : World) (pid : Pid) : World :=
  { w with members := w.members.filter fun m => m.pid != pid }

/-! ## Signals -/

/-- A signal reaches the session. -/
def hitSession (w : World) (signal : Signal) : World :=
  if signal == Signal.interrupt then { w with interrupted := true }
  else if signal == Signal.pipe || !Signal.isDeadly signal then w
  else { w with killed := w.killed.orElse fun _ => some signal }

/-- Notes that a signal has reached a process. -/
def noteSignal (w : World) (pid : Pid) (signal : Signal) : World :=
  w.update pid fun m =>
    if m.arrived.contains signal then m else { m with arrived := m.arrived ++ [signal] }

/-- A signal reaches a process that goes on. -/
def hitGoing (w : World) (m : Member) (signal : Signal) : World :=
  if Signal.isUntrappable signal then
    if Signal.isDeadly signal then w.finish m.pid (.signal signal)
    else w.update m.pid fun m => { m with stage := .stopped }
  else if m.ignored.contains signal then w
  else if m.caught.contains signal then w.noteSignal m.pid signal
  else if Signal.stops signal then w.update m.pid fun m => { m with stage := .stopped }
  else if Signal.isDeadly signal then w.finish m.pid (.signal signal)
  else w

/-- A signal reaches a process. One that is stopped notes signals until it goes on again. -/
def hit (w : World) (pid : Pid) (signal : Signal) : World :=
  if signal == 0 then w
  else if pid == sessionPid then w.hitSession signal
  else
    match w.member? pid with
    | none => w
    | some m =>
      match m.stage with
      | .ended _ => w
      | .going => w.hitGoing m signal
      | .stopped =>
        if signal == Signal.kill then w.finish pid (.signal signal)
        else if signal == Signal.continue_ then
          let w := w.update pid fun m => { m with stage := .going, arrived := [] }
          (m.arrived ++ [signal]).foldl (fun w s =>
            match w.member? pid with
            | some m => w.hitGoing m s
            | none => w) w
        else w.noteSignal pid signal

/-- The processes that a number asks for: one process, or a group for a negative number. -/
def targets (w : World) (pid target : Pid) : List Pid :=
  if 0 < target then
    if target == sessionPid || (w.member? target).isSome then [target] else []
  else
    let group := if target == 0 then (w.member pid).group else -target
    (if group == sessionGroup then [sessionPid] else []) ++
      (w.members.filter fun m => m.group == group).map (·.pid)

end World

end RecallShell.Machine
