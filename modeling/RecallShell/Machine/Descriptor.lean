import RecallShell.Machine.World
import RecallShell.Numeral

/-!
# Reading and writing through descriptors

Reading takes bytes from where an open file stands and writing leaves them there. A pipe holds a
bounded number of bytes: reading waits for bytes or for the last writer to go, writing waits for room
or for the last reader to go. A process that writes where nobody reads gets a signal.
-/

namespace RecallShell.Machine

open Text

/-- The number of bytes that a pipe holds. -/
def pipeSize : Nat := 65536

/-- The greatest number of bytes that a pipe takes all at once or not at all. -/
def pipePiece : Nat := 4096

/-- The start of the file that a program lies in. -/
def programStart : String := "\x7fELF\x02\x01\x01\x00"

/-- The first octets of a string and those behind them. -/
def cutAt (count : Nat) (text : String) : String × String :=
  if text.utf8ByteSize ≤ count then (text, "")
  else
    let chars := text.toList
    (String.ofList (chars.take count), String.ofList (chars.drop count))

/-- How a file is to be opened. -/
structure Access where
  /-- Whether it is to be read. -/
  reads : Bool
  /-- Whether it is to be written. -/
  writes : Bool
  /-- Whether it is made if it is missing. -/
  creates : Bool
  /-- Whether it must be missing. -/
  isNew : Bool
  /-- Whether its content is dropped. -/
  truncates : Bool
  /-- Whether every write goes behind what it holds. -/
  appends : Bool
  /-- Whether it must be a directory. -/
  directory : Bool
  /-- Whether a link at the end of the path is an obstacle. -/
  noLink : Bool
  /-- The permissions that it gets if it is made, as far as the mask lets it. -/
  mode : Nat
  deriving DecidableEq, Repr

namespace Access

/-- Opening for reading. -/
def input : Access := ⟨true, false, false, false, false, false, false, false, 0⟩

/-- Opening for writing anew. -/
def output : Access := ⟨false, true, true, false, true, false, false, false, 0o666⟩

/-- Opening for writing behind what is there. -/
def behind : Access := ⟨false, true, true, false, false, true, false, false, 0o666⟩

/-- Opening for reading and writing. -/
def update : Access := ⟨true, true, true, false, false, false, false, false, 0o666⟩

end Access

namespace World

/-! ## Reading -/

/-- Whether reading from a descriptor comes to something at once. -/
def canRead (w : World) (pid : Pid) (descriptor : Nat) : Bool :=
  match w.opening? pid descriptor with
  | none => true
  | some (_, o) =>
    match (w.disk.node o.node).body with
    | .pipe waiting => !waiting.isEmpty || !w.hasWriters o.node
    | .outlet _ => false
    | _ => true

/-- Bytes that nobody can foretell. -/
def noise (seed : Nat) : Nat → List UInt8
  | 0 => []
  | count + 1 =>
    let next := (seed * 6364136223846793005 + 1442695040888963407) % 2 ^ 64
    UInt8.ofNat (next / 2 ^ 33) :: noise next count

/-- The octets of an open file from where it stands, so many at most. -/
def octetsAt (w : World) (o : Opened) (count : Nat) : Except Errno String :=
  match (w.disk.node o.node).body with
  | .file content => .ok (octets ((content.drop o.offset).take count))
  | .damaged readable cause =>
    if readable.length ≤ o.offset then .error cause
    else .ok (octets ((readable.drop o.offset).take count))
  | .directory .. => .error .isDirectory
  | .link _ => .error .linkLoop
  | .program _ => .ok (String.ofList ((programStart.toList.drop o.offset).take count))
  | .device .zeros | .device .full => .ok (String.ofList (List.replicate count '\x00'))
  | .device .noise => .ok (octets (noise (w.clock + o.offset) count))
  | .device .memory => .error .inputOutput
  | .device .sink | .device .terminal => .ok ""
  | .pipe waiting => .ok (cutAt count waiting).1
  | .outlet _ => .ok ""

/-- Reads so many octets at most; none means the end. -/
def read (w : World) (pid : Pid) (descriptor count : Nat) : Except Errno String × World :=
  match w.opening? pid descriptor with
  | none => (.error .badDescriptor, w)
  | some (number, o) =>
    if !o.reads then (.error .badDescriptor, w)
    else
      match w.octetsAt o count with
      | .error e => (.error e, w)
      | .ok text =>
        let node := w.disk.node o.node
        match node.body with
        | .pipe waiting =>
          let rest := (cutAt count waiting).2
          (.ok text, { w with disk := w.disk.put o.node { node with body := .pipe rest } })
        | _ =>
          (.ok text, { w with
            opened := w.opened.setIfInBounds number { o with offset := o.offset + text.length } })

/-! ## Writing -/

/-- Whether writing some octets to a descriptor comes to something at once. -/
def canWrite (w : World) (pid : Pid) (descriptor count : Nat) : Bool :=
  match w.opening? pid descriptor with
  | none => true
  | some (_, o) =>
    match (w.disk.node o.node).body with
    | .pipe waiting =>
      !w.hasReaders o.node || waiting.length + (min count pipePiece) ≤ pipeSize
    | _ => true

/-- Content with other bytes from some position on; zeros fill a gap before it. -/
def patched (content : Bytes) (offset : Nat) (data : Bytes) : Bytes :=
  let before := content.take offset
  let gap := List.replicate (offset - before.length) zeroByte
  before ++ gap ++ data ++ content.drop (offset + data.length)

/-- Writes octets; says how many of them were taken. -/
def write (w : World) (pid : Pid) (descriptor : Nat) (text : String) : Except Errno Nat × World :=
  match w.opening? pid descriptor with
  | none => (.error .badDescriptor, w)
  | some (number, o) =>
    if !o.writes then (.error .badDescriptor, w)
    else
      let node := w.disk.node o.node
      match node.body with
      | .file content | .damaged content _ =>
        let data := ofOctets text
        let offset := if o.appends then content.length else o.offset
        let room? := ((w.member pid).limits.lookup 'f').map fun limit => limit * 512 - offset
        if data.isEmpty then (.ok 0, w)
        else if room? == some 0 then (.error .fileTooBig, w.hit pid Signal.fileSize)
        else
          let data := match room? with
            | some room => data.take room
            | none => data
          (.ok data.length, { w with
            disk := w.disk.setContent o.node (patched content offset data)
            opened := w.opened.setIfInBounds number { o with offset := offset + data.length } })
      | .device .full => (if text.isEmpty then .ok 0 else .error .noSpace, w)
      | .pipe waiting =>
        if !w.hasReaders o.node then (.error .brokenPipe, w.hit pid Signal.pipe)
        else
          let (taken, _) := cutAt (pipeSize - waiting.length) text
          let node := { node with body := .pipe (waiting ++ taken) }
          (.ok taken.length, { w with disk := w.disk.put o.node node })
      | .outlet outlet =>
        (.ok text.length, { w with written := w.written.push ⟨outlet, ofOctets text⟩ })
      | _ => (.ok text.length, w)

/-! ## Opening -/

/-- Whether a node may be opened in some way, or why not. -/
def refusal? (d : Disk) (id : NodeId) (access : Access) : Option Errno :=
  let n := d.node id
  match n.body with
  | .directory .. =>
    if access.writes || access.creates then some .isDirectory
    else if n.mayRead then none else some .accessDenied
  | .link _ => some .linkLoop
  | .device .terminal => some .noDevice
  | _ =>
    if access.directory then some .notDirectory
    else if (access.reads && !n.mayRead) || (access.writes && !n.mayWrite) then some .accessDenied
    else none

/-- Opens a path, making a file if it is to: the node, or why it cannot be opened. -/
def openPath (d : Disk) (path : Bytes) (access : Access) : Except Errno NodeId × Disk :=
  if path.isEmpty then (.error .noEntry, d)
  else if maxPath < path.length then (.error .nameTooLong, d)
  else if access.creates && (Path.ofBytes path).endsInSlash then
    match d.slashFault path with
    | .system e => (.error e, d)
    | _ => (.error .isDirectory, d)
  else
    match d.resolve (!access.noLink && !(access.isNew && access.creates)) path with
    | .error e => (.error e, d)
    | .ok place =>
      match place, d.at? place with
      | .named directory name, none =>
        if !access.creates then (.error .noEntry, d)
        else
          match d.forbidden? directory with
          | some e => (.error e, d)
          | none =>
            let mode := access.mode - (access.mode &&& d.mask)
            (.ok d.next, d.create directory name (.file []) mode)
      | .within _, none => (.error .noEntry, d)
      | _, some id =>
        if access.isNew && access.creates then (.error .alreadyExists, d)
        else if (Path.ofBytes path).endsInSlash && !(d.node id).isDirectory then
          (.error .notDirectory, d)
        else
          match refusal? d id access with
          | some e => (.error e, d)
          | none =>
            match (d.node id).body with
            | .file _ | .damaged .. => (.ok id, if access.truncates then d.setContent id [] else d)
            | _ => (.ok id, d)

/-- The greatest number of descriptors of a process. -/
def descriptorLimit (w : World) (pid : Pid) : Nat := ((w.member pid).limits.lookup 'n').getD 1024

/-- Opens a path for a process: the descriptor, or why it cannot be opened. -/
def open_ (w : World) (pid : Pid) (path : String) (access : Access) (least : Nat) :
    Except Errno Nat × World :=
  let descriptor := w.freeDescriptor pid least
  if w.descriptorLimit pid ≤ descriptor then (.error .tooManyOpen, w)
  else
    match openPath (w.diskOf pid) (ofOctets path) access with
    | (.error e, _) => (.error e, w)
    | (.ok id, disk) =>
      let (number, w) := (w.withDisk disk).openNode
        ⟨id, 0, access.reads, access.writes, access.appends⟩
      (.ok descriptor, w.connect pid descriptor number false)

/-- Whether a descriptor that was just opened on a pipe with a name has met the other side of it. -/
def isMet (w : World) (pid : Pid) (descriptor : Nat) : Bool :=
  match w.opening? pid descriptor with
  | none => true
  | some (_, o) =>
    let node := w.disk.node o.node
    match node.body with
    | .pipe waiting =>
      node.links == 0 || (o.reads && o.writes) || !waiting.isEmpty
        || (if o.reads then w.hasWriters o.node else w.hasReaders o.node)
    | _ => true

/-- Makes a pipe: the descriptors for reading and for writing. -/
def pipe (w : World) (pid : Pid) : (Nat × Nat) × World :=
  let node := w.disk.next
  let w := { w with disk := w.disk.add (.pipe "") 0o600 }
  let (near, w) := w.openNode ⟨node, 0, true, false, false⟩
  let input := w.freeDescriptor pid 0
  let w := w.connect pid input near false
  let (far, w) := w.openNode ⟨node, 0, false, true, false⟩
  let output := w.freeDescriptor pid 0
  ((input, output), w.connect pid output far false)

/-- Lets a descriptor stand for the same open file as another one. -/
def duplicate (w : World) (pid : Pid) (source target : Nat) (fleeting : Bool) :
    Except Errno Unit × World :=
  match (w.member pid).descriptors.lookup source with
  | none => (.error .badDescriptor, w)
  | some number => (.ok (), w.connect pid target number fleeting)

/-- Moves the position in an open file, which must be a file or a device. -/
def seek (w : World) (pid : Pid) (descriptor offset : Nat) : Except Errno Unit × World :=
  match w.opening? pid descriptor with
  | none => (.error .badDescriptor, w)
  | some (number, o) =>
    match (w.disk.node o.node).body with
    | .pipe _ | .outlet _ => (.error .noSeek, w)
    | _ => (.ok (), { w with opened := w.opened.setIfInBounds number { o with offset } })

/-- The position in an open file, and its size, if it has any. -/
def extent? (w : World) (pid : Pid) (descriptor : Nat) : Option (Nat × Nat) :=
  match w.opening? pid descriptor with
  | none => none
  | some (_, o) =>
    match (w.disk.node o.node).body with
    | .file content | .damaged content _ => some (o.offset, content.length)
    | .device _ => some (o.offset, 0)
    | _ => none

end World

end RecallShell.Machine
