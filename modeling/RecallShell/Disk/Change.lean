import RecallShell.Disk

/-!
# Changes to the disk

Directories, links and files are made, listed, renamed and removed by path. An operation that cannot
be done leaves the disk as it is and says why.
-/

namespace RecallShell

open Text

namespace Disk

/-! ## Looking -/

/-- What a path stands for: through a link at its end, or that link itself. -/
def status (d : Disk) (through : Bool) (path : Bytes) : Except Errno NodeId :=
  if path.isEmpty then .error .noEntry
  else if maxPath < path.length then .error .nameTooLong
  else
    match d.resolve through path with
    | .error e => .error e
    | .ok place =>
      match d.at? place with
      | none => .error .noEntry
      | some id =>
        if (Path.ofBytes path).endsInSlash && !(d.node id).isDirectory then .error .notDirectory
        else .ok id

/-- Whether one string of bytes comes before another or equals it, byte by byte. -/
def bytesLe : Bytes → Bytes → Bool
  | [], _ => true
  | _ :: _, [] => false
  | a :: as, b :: bs => a < b || (a == b && bytesLe as bs)

/-- The names in a directory, in order of creation. -/
def namesIn (d : Disk) (directory : NodeId) : List Bytes := (d.node directory).entries.map (·.1)

/-- The names in the working directory, sorted. -/
def namesHere (d : Disk) : List Bytes := (d.namesIn d.here).mergeSort bytesLe

/-- The names that lead from the root to a directory, climbing so many steps at most. -/
def climb (d : Disk) : Nat → NodeId → List Bytes → List Bytes
  | 0, _, names => names
  | steps + 1, id, names =>
    if id == root then names
    else
      let parent := d.parentOf id
      match (d.node parent).entries.find? fun e => e.2 == id with
      | some (name, _) => d.climb steps parent (name :: names)
      | none => names

/-- The path of a directory. -/
def pathOf (d : Disk) (directory : NodeId) : Bytes :=
  match d.climb maxPath directory [] with
  | [] => [slash]
  | names => names.flatMap fun name => slash :: name

/-- Whether a directory lies in another one, or is that one. -/
def liesIn (d : Disk) (outer : NodeId) : Nat → NodeId → Bool
  | 0, _ => false
  | steps + 1, id =>
    id == outer || (id != root && d.liesIn outer steps (d.parentOf id))

/-! ## Entries -/

/-- Takes a name out of a directory. -/
def withdraw (d : Disk) (directory : NodeId) (name : Bytes) : Disk :=
  let n := d.node directory
  d.put directory
    { n with
      body := .directory (d.parentOf directory) (n.entries.filter fun e => e.1 != name)
      changed := d.clock }

/-- Takes one of its names from a node. -/
def lose (d : Disk) (id : NodeId) : Disk :=
  d.put id { d.node id with links := (d.node id).links - 1 }

/-- The directory and the name that a new node is to have. -/
def vacancy (d : Disk) (path : Bytes) : Except Errno (NodeId × Bytes) :=
  if path.isEmpty then .error .noEntry
  else if maxPath < path.length then .error .nameTooLong
  else
    match d.resolve false path with
    | .error e => .error e
    | .ok (.within _) => .error .alreadyExists
    | .ok (.named directory name) =>
      if (d.child? directory name).isSome then .error .alreadyExists
      else
        match d.forbidden? directory with
        | some e => .error e
        | none => .ok (directory, name)

/-- Makes a node under a new name. -/
def make (d : Disk) (path : Bytes) (body : Body) (mode : Nat) : Except Errno Disk :=
  match d.vacancy path with
  | .error e => .error e
  | .ok (directory, name) =>
    if (Path.ofBytes path).endsInSlash then .error .noEntry
    else .ok (d.create directory name body mode)

/-- Makes a directory; it counts as a name of the one that it lies in. -/
def makeDirectory (d : Disk) (path : Bytes) (mode : Nat) : Except Errno Disk :=
  match d.vacancy path with
  | .error e => .error e
  | .ok (directory, name) =>
    let id := d.next
    .ok (((d.create directory name (.directory directory []) mode).gain id).gain directory)

/-- Makes a link to a path. -/
def makeLink (d : Disk) (target path : Bytes) : Except Errno Disk :=
  if target.isEmpty then .error .noEntry else d.make path (.link target) 0o777

/-- Gives a file one more name; a link at the end of its path is followed or not. -/
def makeName (d : Disk) (through : Bool) (source path : Bytes) : Except Errno Disk :=
  match d.status through source, d.vacancy path with
  | .error e, _ | .ok _, .error e => .error e
  | .ok id, .ok (directory, name) =>
    if (d.node id).isDirectory then .error .notPermitted
    else if (Path.ofBytes path).endsInSlash then .error .noEntry
    else .ok ((d.enter directory name id).gain id)

/-- The directory, the name and the node of an entry that is to be taken away. -/
def occupant (d : Disk) (path : Bytes) : Except Errno (NodeId × Bytes × NodeId) :=
  if path.isEmpty then .error .noEntry
  else if maxPath < path.length then .error .nameTooLong
  else
    let p := Path.ofBytes path
    match d.followLinks false (maxLinks + 1) (if p.absolute then root else d.here) p.names with
    | .error e => .error e
    | .ok (.within _) =>
      .error (if p.names.getLast? == some Path.self then .invalidArgument else .notEmpty)
    | .ok (.named directory name) =>
      match d.child? directory name with
      | none => .error .noEntry
      | some id =>
        if p.endsInSlash && !(d.node id).isDirectory then .error .notDirectory
        else .ok (directory, name, id)

/-- Removes a directory, which must be empty. -/
def removeDirectory (d : Disk) (path : Bytes) : Except Errno Disk :=
  match d.occupant path with
  | .error e => .error e
  | .ok (directory, name, id) =>
    if !(d.node id).isDirectory then .error .notDirectory
    else if !(d.node id).entries.isEmpty then .error .notEmpty
    else
      match d.forbidden? directory with
      | some e => .error e
      | none => .ok ((((d.withdraw directory name).lose id).lose id).lose directory)

/-- Takes a name from a file or a link. -/
def removeFile (d : Disk) (path : Bytes) : Except Errno Disk :=
  match d.occupant path with
  | .error .invalidArgument | .error .notEmpty => .error .isDirectory
  | .error e => .error e
  | .ok (directory, name, id) =>
    if (d.node id).isDirectory then .error .isDirectory
    else
      match d.forbidden? directory with
      | some e => .error e
      | none => .ok ((d.withdraw directory name).lose id)

/-- Moves an entry to another name, where nothing is in the way. -/
def move (d : Disk) (directory : NodeId) (name : Bytes) (id target : NodeId) (newName : Bytes) :
    Disk :=
  let d := (d.withdraw directory name).enter target newName id
  let n := d.node id
  match n.body with
  | .directory _ entries =>
    ((d.put id { n with body := .directory target entries }).lose directory).gain target
  | _ => d

/-- Gives something a new name, in place of what had it. -/
def rename (d : Disk) (source target : Bytes) : Except Errno Disk :=
  match d.occupant source, d.resolve false target with
  | .error .invalidArgument, _ | .error .notEmpty, _ | .ok _, .ok (.within _) => .error .busy
  | .error e, _ | .ok _, .error e => .error e
  | .ok (directory, name, id), .ok (.named newDirectory newName) =>
    match d.forbidden? directory, d.forbidden? newDirectory with
    | some e, _ | none, some e => .error e
    | none, none =>
      let isDirectory := (d.node id).isDirectory
      if isDirectory && d.liesIn id maxPath newDirectory then .error .invalidArgument
      else
        match d.child? newDirectory newName with
        | none =>
          if !isDirectory && (Path.ofBytes target).endsInSlash then .error .notDirectory
          else .ok (d.move directory name id newDirectory newName)
        | some other =>
          if other == id then .ok d
          else
            match isDirectory, (d.node other).isDirectory with
            | true, false => .error .notDirectory
            | false, true => .error .isDirectory
            | true, true =>
              if !(d.node other).entries.isEmpty then .error .notEmpty
              else
                let d := (((d.withdraw newDirectory newName).lose other).lose other).lose newDirectory
                .ok (d.move directory name id newDirectory newName)
            | false, false =>
              let d := (d.withdraw newDirectory newName).lose other
              .ok (d.move directory name id newDirectory newName)

/-! ## Permissions and times -/

/-- Sets who may read, write and run a node. -/
def setMode (d : Disk) (id : NodeId) (mode : Nat) : Disk :=
  d.put id { d.node id with mode := mode }

/-- Sets when a node was last changed. -/
def setTime (d : Disk) (id : NodeId) (time : Nat) : Disk :=
  d.put id { d.node id with changed := time }

/-! ## Furnishing -/

/-- Puts directories where they are missing on the way from a directory along some names. -/
def makeWay (d : Disk) (at_ : NodeId) : List Bytes → Disk
  | [] | [_] => d
  | name :: names =>
    match d.child? at_ name with
    | some id => d.makeWay id names
    | none =>
      let id := d.next
      (((d.create at_ name (.directory at_ []) 0o755).gain id).gain at_).makeWay id names

/-- Puts directories where they are missing on the way to a path. -/
def withWay (d : Disk) (path : Bytes) : Disk :=
  let p := Path.ofBytes path
  d.makeWay (if p.absolute then root else d.here) p.names

/-- Puts a file where a path leads, in place of what was there, if its directory is there. -/
def withFile (d : Disk) (path content : Bytes) (executable : Bool) : Disk :=
  let mode := if executable then 0o755 else 0o644
  match d.find path with
  | .ok place =>
    match place, d.at? place with
    | .named directory name, none => d.create directory name (.file content) mode
    | _, some id => (d.setContent id content).setMode id mode
    | .within _, none => d
  | .error _ => d

/-- Puts a directory where a path leads, if nothing is there. -/
def withDirectory (d : Disk) (path : Bytes) : Disk :=
  match d.makeDirectory path 0o755 with
  | .ok d => d
  | .error _ => d

/-- Takes away what a path leads to, if anything. -/
def without (d : Disk) (path : Bytes) : Disk :=
  match d.occupant path with
  | .ok (directory, name, id) => (d.withdraw directory name).lose id
  | .error _ => d

end Disk

end RecallShell
