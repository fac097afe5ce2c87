import RecallShell.Machine.Condition
import RecallShell.Machine.Utility.Files

/-!
# Copying, moving and linking

Files are copied, moved or given further names, one to another name or any number into a directory.
What stands at the target decides: a file gives way, perhaps after a question or to a backup, a
directory only to what is merged into it, and a file never to itself.
-/

namespace RecallShell.Machine

open Text Work

/-! ## Targets -/

/-- The path of a file in a directory that it goes into. -/
def placeIn (directory source : String) : String :=
  let base := lastName source
  within directory (if base == ".." then "." else base)

/-- Why a path is no directory that files can go into, if it is none. -/
def directoryFault? (path : String) : Work (Option Errno) := do
  match ← statusOf true path with
  | .ok (_, n) => return if n.isDirectory then none else some .notDirectory
  | .error e => return some e

/-- The sources among the operands, each with its target; the last operand names the target or the
directory that files go into. -/
def sourcesAndTargets (a : Arguments) (placed : String → String → String) :
    Work (List (String × String)) := do
  match a.operands with
  | [] => misused "missing file operand" 1
  | [one] => misused s!"missing destination file operand after {Quoting.always one}" 1
  | first :: second :: rest =>
    let last := a.operands.getLastD ""
    match a.has 'T', ← directoryFault? last with
    | false, none =>
      return a.operands.dropLast.map fun source => (source, placed last source)
    | whole, fault =>
      match rest, whole, fault with
      | [], _, _ => return [(first, second)]
      | _, false, some e => die (because s!"target {Quoting.always last}" e) 1
      | extra :: _, _, _ => misused s!"extra operand {Quoting.always extra}" 1

/-! ## Copying -/

/-- How files are copied. -/
structure CopyPlan where
  /-- Whether directories are copied with all they hold. -/
  recursive : Bool := false
  /-- Whether a question is asked before anything gives way. -/
  asks : Bool := false
  /-- Whether nothing gives way. -/
  spares : Bool := false
  /-- Whether only what is older gives way. -/
  updates : Bool := false
  /-- Whether what gives way is kept under a name with an ending. -/
  backs : Bool := false
  /-- Whether it is said what is done. -/
  tells : Bool := false
  /-- Whether links are made instead of copies. -/
  links : Bool := false
  /-- Whether modes and times stay the same. -/
  keeps : Bool := false
  /-- A mode that copies get in any case. -/
  mode? : Option (List Mode.Change) := none

/-- Copies what is left to be read, in so many pieces at most; a fault is told with whether it is one of
writing. -/
def pour (input output : Nat) : Nat → Act (Except (Bool × Errno) Unit)
  | 0 => return .ok ()
  | turns + 1 => do
    match ← Act.read input pipeSize with
    | .error e => return .error (false, e)
    | .ok text =>
      if text.isEmpty then return .ok ()
      else
        match ← Act.write output text with
        | .error e => return .error (true, e)
        | .ok () => pour input output turns

namespace CopyPlan

/-- Gives a copy the mode and the time that it is to have. -/
def settle (p : CopyPlan) (target : String) (source : Node) : Work Unit := do
  if let .ok (id, n) ← statusOf true target then
    if let some changes := p.mode? then
      let mode := Mode.adjust changes n.isDirectory (← currentMask) 0
      discard <| change fun d => .ok (d.setMode id mode)
    if p.keeps then
      discard <| change fun d => .ok ((d.setMode id source.mode).setTime id source.changed)

/-- Copies the content of one file to another one, which may have to be made. -/
def copyContent (p : CopyPlan) (source target : String) (n : Node) (isNew : Bool) : Work Unit := do
  let failed (text : String) (e : Errno) : Work Unit := complain (because text e) 1
  match ← (Act.open_ source Access.input : Act _) with
  | .error e => failed s!"cannot open {Quoting.always source} for reading" e
  | .ok input => do
    let access : Access :=
      if isNew then { Access.output with isNew := true, mode := n.mode &&& 0o777 }
      else { Access.output with creates := false }
    match ← (Act.open_ target access : Act _) with
    | .error e => failed s!"cannot create regular file {Quoting.always target}" e
    | .ok output => do
      match ← (pour input output Act.endless : Act _) with
      | .ok () => pure ()
      | .error (true, e) => failed s!"error writing {Quoting.always target}" e
      | .error (false, e) => failed s!"error reading {Quoting.always source}" e
      (Act.close output : Act Unit)
      p.settle target n
    (Act.close input : Act Unit)

/-- Makes room at a target as far as that may be; says whether there is nothing any more, unless nothing
is to be done. -/
def makeRoom (p : CopyPlan) (source target : String) (id : NodeId) (n : Node) :
    Work (Option Bool) := do
  let shown := Quoting.always target
  let refuse (text : String) : Work (Option Bool) := do
    complain text 1
    return none
  match ← statusOf true target with
  | .error .noEntry => return some true
  | .error e => refuse (because s!"cannot stat {shown}" e)
  | .ok (there, m) =>
    if there == id then refuse s!"{Quoting.always source} and {shown} are the same file"
    else if !n.isDirectory && (p.spares || (p.updates && n.changed ≤ m.changed)) then return none
    else if ← isRefused (p.asks && !n.isDirectory) s!"overwrite {shown}" then return none
    else
      match n.isDirectory, m.isDirectory with
      | true, false =>
        refuse s!"cannot overwrite non-directory {shown} with directory {Quoting.always source}"
      | false, true => refuse s!"cannot overwrite directory {shown} with non-directory"
      | true, true => return some false
      | false, false => do
        if p.backs then discard <| change fun d => d.rename (ofOctets target) (ofOctets (target ++ "~"))
        return some p.backs

/-- Copies what lies under a path to another one, for an operand and its target; below that the
directory is known that was made for it. -/
def copyOne (p : CopyPlan) (operand : String × String) :
    Nat → Option NodeId → String → String → Work Unit
  | 0, _, _, _ => pure ()
  | depth + 1, made?, source, target => do
    let shown := Quoting.always source
    let failed (text : String) (e : Errno) : Work Unit := complain (because text e) 1
    match ← statusOf (!p.recursive) source with
    | .error e => failed s!"cannot stat {shown}" e
    | .ok (id, n) =>
      if n.isDirectory && !p.recursive then
        let hint := if p.mode?.isSome then "" else "-r not specified; "
        complain s!"{hint}omitting directory {shown}" 1
      else if made? == some id then
        let into := Quoting.always operand.2
        complain s!"cannot copy a directory, {Quoting.always operand.1}, into itself, {into}" 1
      else if let some isNew ← p.makeRoom source target id n then
        let arrow := s!"{shown} -> {Quoting.always target}"
        if p.tells && (isNew || !n.isDirectory) then sayLine arrow
        match n.body with
        | .directory .. => do
          let mode := Mode.without (n.mode &&& 0o777) (← currentMask)
          let result ← if isNew then
              change fun d => d.makeDirectory (ofOctets target) (mode ||| 0o700)
            else pure (.ok ())
          match result with
          | .error e => failed s!"cannot create directory {Quoting.always target}" e
          | .ok () => do
            let new? := (← statusOf true target).toOption.map (·.1)
            forEach ((← disk).namesIn id) fun name =>
              copyOne p operand depth (made?.orElse fun _ => new?) (within source (octets name))
                (within target (octets name))
            p.settle target n
        | .link path =>
          if let .error e ← change fun d => d.makeLink path (ofOctets target) then
            failed s!"cannot create symbolic link {Quoting.always target}" e
        | _ =>
          if p.links then
            if let .error e ← change fun d => d.makeLink (ofOctets source) (ofOctets target) then
              failed s!"cannot create symbolic link {Quoting.always target} to {shown}" e
          else p.copyContent source target n isNew

/-- Copies operands one after the other. -/
def copyAll (p : CopyPlan) (pairs : List (String × String)) : Work Unit :=
  forEach pairs fun pair => p.copyOne pair maxDepth none pair.1 pair.2

end CopyPlan

/-- Makes the directories on the way to a source under another directory as well. -/
def makeWayTo (directory source : String) : Work Unit :=
  forEach (pathsAlong source).dropLast fun part => do
    let target := within directory part
    if let .error _ ← statusOf true target then
      if let .ok (_, n) ← statusOf true part then
        discard <| change fun d => d.makeDirectory (ofOctets target) (n.mode &&& 0o7777)

/-- Copies files. -/
def cp : Utility := fun i =>
  let table : OptionTable := .of "abinrRsuvTⓓ" "" [("archive", 'a'), ("backup", 'b'),
    ("interactive", 'i'), ("no-clobber", 'n'), ("no-target-directory", 'T'), ("parents", 'ⓓ'),
    ("recursive", 'r'), ("symbolic-link", 's'), ("update", 'u'), ("verbose", 'v')]
  table.run i.args 1 fun a => do
    let p : CopyPlan := {
      recursive := a.has 'r' || a.has 'R' || a.has 'a'
      asks := a.last? "in" == some 'i'
      spares := a.last? "in" == some 'n'
      updates := a.has 'u'
      backs := a.has 'b'
      tells := a.has 'v'
      links := a.has 's'
      keeps := a.has 'a' }
    let pairs ← sourcesAndTargets a (if a.has 'ⓓ' then within else placeIn)
    if a.has 'ⓓ' then forEach pairs fun pair => makeWayTo (a.operands.getLastD "") pair.1
    p.copyAll pairs

/-- Copies files for use, with a mode of their own. -/
def install : Utility := fun i =>
  let table : OptionTable := .of "" "m" [("mode", 'm')]
  table.run i.args 1 fun a => do
    let mode := (a.value? 'm').getD "755"
    match Mode.read? mode with
    | none => die s!"invalid mode {← quote mode}" 1
    | some changes => do
      let p : CopyPlan := { mode? := some changes }
      p.copyAll (← sourcesAndTargets a placeIn)

/-! ## Moving -/

/-- Moves a file to a target. -/
def moveOne (source target : String) : Work Unit := do
  let (shownSource, shownTarget) := (Quoting.always source, Quoting.always target)
  match ← statusOf false source, ← statusOf true target with
  | .error e, _ => complain (because s!"cannot stat {shownSource}" e) 1
  | .ok (id, n), there =>
    if there.toOption.any fun m => m.1 == id && n.links ≤ 1 then
      complain s!"{shownSource} and {shownTarget} are the same file" 1
    else
      match ← change fun d => d.rename (ofOctets source) (ofOctets target) with
      | .ok () => pure ()
      | .error .invalidArgument =>
        complain s!"cannot move {shownSource} to a subdirectory of itself, {shownTarget}" 1
      | .error e =>
        if [Errno.alreadyExists, .isDirectory, .noSpace].contains e then
          complain (because s!"cannot overwrite {shownTarget}" e) 1
        else complain (because s!"cannot move {shownSource} to {shownTarget}" e) 1

/-- Moves files. -/
def mv : Utility := fun i =>
  let table : OptionTable := .of "T" "" [("no-target-directory", 'T')]
  table.run i.args 1 fun a => do
    forEach (← sourcesAndTargets a placeIn) fun pair => moveOne pair.1 pair.2

/-! ## Further names -/

/-- Makes one link, or gives a file one more name; what is in the way may have to go. -/
def linkOne (symbolic removes : Bool) (source target : String) : Work Unit := do
  let (origin, shown) := (Quoting.always source, Quoting.always target)
  let attempt : Work (Except Errno Unit) :=
    if symbolic then change fun d => d.makeLink (ofOctets source) (ofOctets target)
    else change fun d => d.makeName false (ofOctets source) (ofOctets target)
  let refuse (e : Errno) : Work Unit :=
    let text :=
      if symbolic then s!"failed to create symbolic link {shown}"
      else if e == .alreadyExists then s!"failed to create hard link {shown}"
      else s!"failed to create hard link {shown} => {origin}"
    complain (because text e) 1
  if let .error e ← attempt then
    match symbolic, ← statusOf symbolic source, ← statusOf false target with
    | false, .error e, _ => complain (because s!"failed to access {origin}" e) 1
    | false, .ok (_, ⟨.directory .., _, _, _⟩), _ =>
      complain s!"{Quoting.ifNeeded source}: hard link not allowed for directory" 1
    | _, _, .error _ => refuse e
    | _, found, .ok (there, m) =>
      if !removes || e != .alreadyExists then refuse e
      else if m.isDirectory then complain s!"{Quoting.ifNeeded target}: cannot overwrite directory" 1
      else if found.toOption.any fun n => n.1 == there then
        complain s!"{origin} and {shown} are the same file" 1
      else do
        discard <| change fun d => d.removeFile (ofOctets target)
        if let .error e ← attempt then refuse e

/-- Makes links, or gives files further names. -/
def ln : Utility := fun i =>
  let table : OptionTable := .of "fsT" "" [("no-target-directory", 'T'), ("force", 'f'),
    ("symbolic", 's')]
  table.run i.args 1 fun a => do
    let pairs ← match a.operands with
      | [one] => pure [(one, placeIn "." one)]
      | _ => sourcesAndTargets a placeIn
    forEach pairs fun pair => linkOne (a.has 's') (a.has 'f') pair.1 pair.2

/-- Gives a file one more name. -/
def link : Utility := fun i =>
  let table : OptionTable := .of "" "" []
  table.run i.args 1 fun a => do
    match a.operands with
    | [] => misused "missing operand" 1
    | [one] => misused s!"missing operand after {← quote one}" 1
    | [source, target] =>
      match ← change fun d => d.makeName false (ofOctets source) (ofOctets target) with
      | .ok () => pure ()
      | .error e =>
        die (because s!"cannot create link {Quoting.always target} to {Quoting.always source}" e) 1
    | _ :: _ :: extra :: _ => misused s!"extra operand {← quote extra}" 1

end RecallShell.Machine
