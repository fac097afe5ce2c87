import RecallShell.Disk.Path
import RecallShell.IoError

/-!
# The disk

Files, directories, links and devices are nodes with numbers. A directory names nodes, and more than
one name can stand for the same file. Reading and writing a path first finds its node and fails with
the cause that finding it meets first. Reading can stop midway at a damaged file. Writes can be made to
fail in advance, one after the other, when the file is opened or later, to stand for a disk whose state
other programs change.
-/

namespace RecallShell

open Text

/-- The number of a node. -/
abbrev NodeId := Nat

/-- What reading from a device and writing to it come to. -/
inductive Device where
  /-- It has no content and takes every byte. -/
  | sink
  /-- It has endless zeros and takes every byte. -/
  | zeros
  /-- It has endless zeros and no room for a single byte. -/
  | full
  /-- It has endless bytes that nobody can foretell. -/
  | noise
  /-- It cannot be read where nothing is stored. -/
  | memory
  /-- It is the terminal, which no process here has. -/
  | terminal
  deriving DecidableEq, Repr

/-- What a node holds. -/
inductive Body where
  /-- A file with its content. -/
  | file (content : Bytes)
  /-- A damaged file: the bytes that can be read, and what reading comes to behind them. -/
  | damaged (readable : Bytes) (cause : Errno)
  /-- A directory: the one that it lies in, and its entries in order of creation. -/
  | directory (parent : NodeId) (entries : List (Bytes × NodeId))
  /-- A link, at which a path goes on along another one. -/
  | link (target : Bytes)
  /-- A program that comes with the machine, by its name. -/
  | program (name : String)
  /-- A device. -/
  | device (device : Device)
  /-- A pipe, with the octets waiting in it. -/
  | pipe (waiting : String)
  /-- A pipe whose bytes leave the machine, by number. -/
  | outlet (number : Nat)
  deriving DecidableEq, Repr

/-- A node of the disk. -/
structure Node where
  /-- What it holds. -/
  body : Body
  /-- Who may read, write and run it, in twelve bits. -/
  mode : Nat
  /-- The number of names it has. -/
  links : Nat
  /-- When it was last changed, in microseconds. -/
  changed : Nat
  deriving DecidableEq, Repr

instance : Inhabited Node := ⟨⟨.file [], 0, 0, 0⟩⟩

/-- What comes in the way of a write. -/
inductive Obstacle where
  /-- The file cannot be opened, and stays as it is. -/
  | refusal (cause : IoError)
  /-- The file is opened and emptied, but no more than so many bytes get into it. -/
  | shortage (room : Nat) (cause : IoError)
  deriving DecidableEq, Repr

/-- The files and directories of a machine and the directory that relative paths start from. -/
structure Disk where
  /-- The nodes by number; the first one is the root. -/
  nodes : Array Node
  /-- The working directory. -/
  here : NodeId
  /-- The permissions that new nodes do not get. -/
  mask : Nat
  /-- The time that changes are marked with, in microseconds. -/
  clock : Nat
  /-- What comes in the way of the coming writes, if anything does. -/
  obstacles : List (Option Obstacle)
  deriving DecidableEq, Repr, Inhabited

/-- Why a file could not be read. -/
inductive ReadFault where
  /-- It could not be opened. -/
  | opening (cause : IoError)
  /-- It was opened, but after some bytes reading it failed. -/
  | reading (before : Bytes) (cause : IoError)
  deriving DecidableEq, Repr

/-- The bytes that were read all the same. -/
def ReadFault.gathered : ReadFault → Bytes
  | .opening _ => []
  | .reading before _ => before

namespace Node

/-- The entries of a directory; anything else has none. -/
def entries (n : Node) : List (Bytes × NodeId) :=
  match n.body with
  | .directory _ entries => entries
  | _ => []

/-- Whether a node is a directory. -/
def isDirectory (n : Node) : Bool :=
  match n.body with
  | .directory .. => true
  | _ => false

/-- Whether the owner of a node may read it. -/
def mayRead (n : Node) : Bool := n.mode / 256 % 2 == 1

/-- Whether the owner of a node may write it. -/
def mayWrite (n : Node) : Bool := n.mode / 128 % 2 == 1

/-- Whether the owner of a node may run it, or search it for names. -/
def mayRun (n : Node) : Bool := n.mode / 64 % 2 == 1

end Node

namespace Disk

/-- The root. -/
def root : NodeId := 0

/-- A node by its number. -/
def node (d : Disk) (id : NodeId) : Node := d.nodes[id]?.getD default

/-- Puts a node in place of one. -/
def put (d : Disk) (id : NodeId) (node : Node) : Disk :=
  { d with nodes := d.nodes.setIfInBounds id node }

/-- The number of the next node. -/
def next (d : Disk) : NodeId := d.nodes.size

/-- Adds a node that has no name yet. -/
def add (d : Disk) (body : Body) (mode : Nat) : Disk :=
  { d with nodes := d.nodes.push ⟨body, mode, 0, d.clock⟩ }

/-- What a name in a directory stands for. -/
def child? (d : Disk) (directory : NodeId) (name : Bytes) : Option NodeId :=
  (d.node directory).entries.lookup name

/-- The directory that a directory lies in. -/
def parentOf (d : Disk) (directory : NodeId) : NodeId :=
  match (d.node directory).body with
  | .directory parent _ => parent
  | _ => directory

/-! ## Places -/

/-- What a path leads to. -/
inductive Place where
  /-- A directory, by way of the names that directories give themselves and each other. -/
  | within (directory : NodeId)
  /-- A name in a directory, whether or not anything has that name. -/
  | named (directory : NodeId) (name : Bytes)
  deriving DecidableEq, Repr

/-- The node at a place. -/
def at? (d : Disk) : Place → Option NodeId
  | .within directory => some directory
  | .named directory name => d.child? directory name

/-- Follows names from a directory, of which every one but the last must stand for a directory. A
link is left to `across`, which is told where it lies and which names come then; at the very end it
counts as a name of its own unless the path is to be followed `through`. -/
def follow (d : Disk) (through : Bool) (across : NodeId → List Bytes → Except Errno Place)
    (at_ : NodeId) : List Bytes → Except Errno Place
  | [] => .ok (.within at_)
  | name :: names =>
    if !(d.node at_).mayRun then .error .accessDenied
    else if name = Path.self then d.follow through across at_ names
    else if name = Path.parent then d.follow through across (d.parentOf at_) names
    else if maxName < name.length then .error .nameTooLong
    else
      match d.child? at_ name with
      | none => if names.isEmpty then .ok (.named at_ name) else .error .noEntry
      | some id =>
        match (d.node id).body with
        | .link target =>
          if names.isEmpty && !through then .ok (.named at_ name)
          else
            let p := Path.ofBytes target
            across (if p.absolute then root else at_) (p.names ++ names)
        | .directory .. =>
          if names.isEmpty then .ok (.named at_ name) else d.follow through across id names
        | _ => if names.isEmpty then .ok (.named at_ name) else .error .notDirectory

/-- Follows names from a directory across a number of links. -/
def followLinks (d : Disk) (through : Bool) : Nat → NodeId → List Bytes → Except Errno Place
  | 0, _, _ => .error .linkLoop
  | links + 1, at_, names => d.follow through (d.followLinks through links) at_ names

/-- The greatest number of links that a path may meet. -/
def maxLinks : Nat := 40

/-- Finds the place that a path leads to, by way of a link at its end or not. -/
def resolve (d : Disk) (through : Bool) (path : Bytes) : Except Errno Place :=
  let p := Path.ofBytes path
  d.followLinks (through || p.endsInSlash) (maxLinks + 1) (if p.absolute then root else d.here)
    p.names

/-- What is wrong with a path in itself: it holds a byte zero, is empty or is too long. -/
def fault? (path : Bytes) : Option IoError :=
  if path.contains zeroByte then some .zeroInPath
  else if path.isEmpty then some (.system .noEntry)
  else if maxPath < path.length then some (.system .nameTooLong)
  else none

/-- Finds the place where a path leads through all its links. -/
def find (d : Disk) (path : Bytes) : Except IoError Place :=
  match fault? path with
  | some e => .error e
  | none =>
    match d.resolve true path with
    | .ok place => .ok place
    | .error e => .error (.system e)

/-- What a path stands for. -/
def look (d : Disk) (path : Bytes) : Except IoError NodeId :=
  match d.find path with
  | .error e => .error e
  | .ok place =>
    match d.at? place with
    | none => .error (.system .noEntry)
    | some id =>
      if (Path.ofBytes path).endsInSlash && !(d.node id).isDirectory then
        .error (.system .notDirectory)
      else .ok id

/-! ## Reading and writing -/

/-- Reads a node that could be opened. A directory has no content to read, and nothing comes of
devices and pipes. An interruption is no failure: reading goes on behind it. -/
def contentOf (d : Disk) (id : NodeId) : Except ReadFault Bytes :=
  let n := d.node id
  if !n.mayRead then .error (.opening (.system .accessDenied))
  else
    match n.body with
    | .file content => .ok content
    | .damaged readable cause =>
      if cause.kind = .interrupted then .ok readable
      else .error (.reading readable (.system cause))
    | .directory .. => .error (.reading [] (.system .isDirectory))
    | .device .memory => .error (.reading [] (.system .inputOutput))
    | .device .terminal => .error (.opening (.system .noDevice))
    | _ => .ok []

/-- Reads a file. -/
def read (d : Disk) (path : Bytes) : Except ReadFault Bytes :=
  match d.look path with
  | .error e => .error (.opening e)
  | .ok id => d.contentOf id

/-- The content of a file, if it can be read. -/
def content? (d : Disk) (path : Bytes) : Option Bytes := (d.read path).toOption

/-- Puts content in place of a file's. -/
def setContent (d : Disk) (id : NodeId) (content : Bytes) : Disk :=
  d.put id { d.node id with body := .file content, changed := d.clock }

/-- Names a node in a directory. -/
def enter (d : Disk) (directory : NodeId) (name : Bytes) (id : NodeId) : Disk :=
  let n := d.node directory
  d.put directory
    { n with body := .directory (d.parentOf directory) (n.entries ++ [(name, id)]), changed := d.clock }

/-- Gives a node one name more. -/
def gain (d : Disk) (id : NodeId) : Disk :=
  d.put id { d.node id with links := (d.node id).links + 1 }

/-- Makes a node under a name in a directory. -/
def create (d : Disk) (directory : NodeId) (name : Bytes) (body : Body) (mode : Nat) : Disk :=
  (((d.add body mode).enter directory name d.next)).gain d.next

/-- Whether names can be added to a directory and taken from it, and why not. A directory without
names of its own is gone. -/
def forbidden? (d : Disk) (directory : NodeId) : Option Errno :=
  let n := d.node directory
  if n.links == 0 then some .noEntry
  else if !n.mayWrite || !n.mayRun then some .accessDenied
  else none

/-- The permissions of a new file. -/
def fileMode (d : Disk) : Nat := 0o666 - (0o666 &&& d.mask)

/-- Puts content in place of what a node holds. -/
def refill (d : Disk) (id : NodeId) (content : Bytes) : Except Errno Unit × Disk :=
  let n := d.node id
  match n.body with
  | .directory .. => (.error .isDirectory, d)
  | .link _ => (.error .linkLoop, d)
  | .program _ => (.error .accessDenied, d)
  | .device .terminal => (.error .noDevice, d)
  | body =>
    if !n.mayWrite then (.error .accessDenied, d)
    else
      match body with
      | .file _ | .damaged .. => (.ok (), d.setContent id content)
      | .device .full => if content.isEmpty then (.ok (), d) else (.error .noSpace, d)
      | _ => (.ok (), d)

/-- What comes of writing to a path that ends in a slash: it would have to be a directory. -/
def slashFault (d : Disk) (path : Bytes) : IoError :=
  match fault? path, d.look (Path.directoryPart path ++ [slash]) with
  | some e, _ | none, .error e => e
  | none, .ok _ => .system .isDirectory

/-- Writes a file anew when nothing stands in the way, creating it if nothing has its name. -/
def overwrite (d : Disk) (path content : Bytes) : Except IoError Unit × Disk :=
  if (Path.ofBytes path).endsInSlash then (.error (d.slashFault path), d)
  else
    match d.find path with
    | .error e => (.error e, d)
    | .ok place =>
      match place, d.at? place with
      | .named directory name, none =>
        match d.forbidden? directory with
        | some e => (.error (.system e), d)
        | none => (.ok (), d.create directory name (.file content) d.fileMode)
      | _, some id =>
        match d.refill id content with
        | (.ok (), d) => (.ok (), d)
        | (.error e, d) => (.error (.system e), d)
      | .within _, none => (.error (.system .isDirectory), d)

/-- Writes a file anew, but for what gets no room in it, and then fails; a write that would have
failed anyway fails as it would have. -/
def overwritePart (d : Disk) (path content : Bytes) (room : Nat) (cause : IoError) :
    Except IoError Unit × Disk :=
  match d.overwrite path content with
  | (.ok (), _) => (.error cause, (d.overwrite path (content.take room)).2)
  | failed => failed

/-- Writes a file anew, as well as what comes in the way allows. -/
def write (d : Disk) (path content : Bytes) : Except IoError Unit × Disk :=
  match d.obstacles with
  | some (.refusal cause) :: rest => (.error cause, { d with obstacles := rest })
  | some (.shortage room cause) :: rest =>
    ({ d with obstacles := rest }).overwritePart path content room cause
  | none :: rest => ({ d with obstacles := rest }).overwrite path content
  | [] => d.overwrite path content

end Disk

end RecallShell
