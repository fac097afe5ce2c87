import RecallShell.Machine.Calendar
import RecallShell.Machine.Utility.Facts

/-!
# Utilities that make and remove

Files, directories and pipes are made and removed, and their sizes, times and modes are changed. What
cannot be done is said with the cause, and the other operands are dealt with all the same.
-/

namespace RecallShell.Machine

open Text Work

/-! ## Questions -/

/-- Reads a line of the standard input, octet by octet. -/
def readAnswer : Nat → String → Work String
  | 0, before => return before
  | turns + 1, before => do
    match ← read 0 1 with
    | .error _ => return before
    | .ok text =>
      if text.isEmpty || text == "\n" then return before else readAnswer turns (before ++ text)

/-- Asks a question and reads whether the answer is yes. -/
def agrees (question : String) : Work Bool := do
  flush
  sayError s!"{← Work.name}: {question}? "
  let answer ← readAnswer Act.endless ""
  return answer.startsWith "y" || answer.startsWith "Y"

/-- Asks a question if it must be asked, and reads whether the answer is no. -/
def isRefused (asks : Bool) (question : String) : Work Bool := do
  if asks then return !(← agrees question) else return false

/-! ## Times -/

/-- The moment that an option of `touch` names, if there is one. -/
def givenTime (a : Arguments) : Work (Option Nat) := do
  match a.value? 'd' with
  | none => return none
  | some text =>
    match Date.read? text with
    | some date => return some (date.number * dayLength)
    | none => die s!"invalid date format {← quote text}" 1

/-- Opening for writing without changing what is there. -/
def making : Access := { Access.output with truncates := false }

/-- Sets the time of one file, which is made if it is missing. -/
def touchOne (a : Arguments) (time? : Option Nat) (path : String) : Work Unit := do
  let setTime (id : NodeId) : Work Unit := do
    let now ← (Act.clock : Act _)
    discard <| change fun d => .ok (d.setTime id (time?.getD now))
  match ← statusOf true path with
  | .ok (id, _) => setTime id
  | .error e =>
    let refusal := because s!"setting times of {Quoting.always path}" e
    if a.has 'c' then
      if e != .noEntry then complain refusal 1
    else
      match ← (Act.open_ path making : Act _) with
      | .ok descriptor => do
        (Act.close descriptor : Act Unit)
        match ← statusOf true path with
        | .ok (id, _) => setTime id
        | .error _ => pure ()
      | .error cause =>
        if cause == .isDirectory then complain refusal 1
        else complain (because s!"cannot touch {Quoting.always path}" cause) 1

/-- Makes files that are missing and sets the times of all. -/
def touch : Utility := fun i =>
  let table : OptionTable := .of "c" "d" [("no-create", 'c'), ("date", 'd')]
  table.run i.args 1 fun a => do
    let time? ← givenTime a
    if a.operands.isEmpty then misused "missing file operand" 1
    forEach a.operands (touchOne a time?)

/-! ## Removing -/

/-- The greatest depth of directories. -/
def maxDepth : Nat := 10000

/-- Removes what lies under a path; says whether it is gone. -/
def removeOne (whole forced : Bool) : Nat → String → Work Bool
  | 0, _ => return false
  | depth + 1, path => do
    let done (result : Except Errno Unit) : Work Bool := do
      match result with
      | .ok () => return true
      | .error e => do
        complain (because s!"cannot remove {Quoting.always path}" e) 1
        return false
    match ← statusOf false path with
    | .error e =>
      if forced && (e == .noEntry || e == .notDirectory) then return true else done (.error e)
    | .ok (id, node) =>
      if !node.isDirectory then done (← change fun d => d.removeFile (ofOctets path))
      else if !whole then done (.error .isDirectory)
      else if !node.mayRead && !node.entries.isEmpty then done (.error .accessDenied)
      else do
        let gone ← ((← disk).namesIn id).mapM fun name =>
          removeOne whole forced depth (within path (octets name))
        if gone.all (·) then done (← change fun d => d.removeDirectory (ofOctets path)) else return false

/-- Removes files, and directories with all they hold if asked to. -/
def rm : Utility := fun i =>
  let table : OptionTable := .of "frR" "" [("recursive", 'r'), ("force", 'f')]
  table.run i.args 1 fun a => do
    if a.operands.isEmpty && !a.has 'f' then misused "missing operand" 1
    let whole := a.has 'r' || a.has 'R'
    forEach a.operands fun path => do
      if whole && [".", ".."].contains (lastName path) then
        complain s!"refusing to remove '.' or '..' directory: skipping {Quoting.always path}" 1
      else discard <| removeOne whole (a.has 'f') maxDepth path

/-- Takes a name from a file. -/
def unlink : Utility := fun i =>
  let table : OptionTable := .of "" "" []
  table.run i.args 1 fun a => do
    match a.operands with
    | [] => misused "missing operand" 1
    | [path] =>
      match ← change fun d => d.removeFile (ofOctets path) with
      | .ok () => pure ()
      | .error e => die (because s!"cannot unlink {Quoting.always path}" e) 1
    | _ :: extra :: _ => misused s!"extra operand {← quote extra}" 1

/-! ## Directories -/

/-- The paths on the way to a path, the shortest first, and that path. -/
def pathsAlong (path : String) : List String :=
  let parts := path.splitToList (· == '/')
  let cuts := (List.range parts.length).map fun n => "/".intercalate (parts.take (n + 1))
  cuts.filter fun p => !p.isEmpty && !p.endsWith "/"

/-- The mask of the process. -/
def currentMask : Work Nat := do return (← disk).mask

/-- A mode as the mask lets it be. -/
def masked (mode : Nat) : Work Nat := do return Mode.without mode (← currentMask)

/-- The mode that an option asks for, starting from one, or that one as the mask lets it be. -/
def modeOption (a : Arguments) (directory : Bool) (start : Nat) : Work Nat := do
  match a.value? 'm' with
  | none => masked start
  | some text =>
    match Mode.read? text with
    | some changes => return Mode.adjust changes directory (← currentMask) start
    | none => die s!"invalid mode {← quote text}" 1

/-- Makes directories. -/
def mkdir : Utility := fun i =>
  let table : OptionTable :=
    .of "pv" "m" [("parents", 'p'), ("verbose", 'v'), ("mode", 'm')]
  table.run i.args 1 fun a => do
    if a.operands.isEmpty then misused "missing operand" 1
    let mode ← modeOption a true 0o777
    let onTheWay := (← masked 0o777) ||| 0o300
    let make (path : String) (mode : Nat) : Work Bool := do
      match ← change fun d => d.makeDirectory (ofOctets path) mode with
      | .ok () => do
        if a.has 'v' then sayLine s!"{i.name}: created directory {Quoting.always path}"
        return true
      | .error e => do
        complain (because s!"cannot create directory {← quote path}" e) 1
        return false
    let rec makeAll : List String → Work Unit
      | [] => pure ()
      | path :: paths => do
        match ← statusOf true path with
        | .ok (_, node) =>
          if node.isDirectory then makeAll paths
          else
            let e : Errno := if paths.isEmpty then .alreadyExists else .notDirectory
            complain (because s!"cannot create directory {← quote path}" e) 1
        | .error _ =>
          if ← make path (if paths.isEmpty then mode else onTheWay) then makeAll paths
    forEach a.operands fun path => do
      if a.has 'p' && !path.isEmpty then makeAll (pathsAlong path)
      else discard <| make path mode

/-- Removes empty directories, and those on the way to them if asked to. -/
def rmdir : Utility := fun i =>
  let table : OptionTable := .of "p" "" [("parents", 'p')]
  table.run i.args 1 fun a => do
    if a.operands.isEmpty then misused "missing operand" 1
    let rec removeAll (what : String) : List String → Work Unit
      | [] => pure ()
      | path :: paths => do
        match ← change fun d => d.removeDirectory (ofOctets path) with
        | .ok () => removeAll "directory " paths
        | .error e => complain (because s!"failed to remove {what}{Quoting.always path}" e) 1
    forEach a.operands fun path =>
      removeAll "" (if a.has 'p' then (pathsAlong path).reverse else [path])

/-! ## Pipes -/

/-- Makes pipes with names. -/
def mkfifo : Utility := fun i =>
  let table : OptionTable := .of "" "m" [("mode", 'm')]
  table.run i.args 1 fun a => do
    if a.operands.isEmpty then misused "missing operand" 1
    let mode ← modeOption a false 0o666
    forEach a.operands fun path => do
      match ← change fun d => d.make (ofOctets path) (.pipe "") mode with
      | .ok () => pure ()
      | .error e => complain (because s!"cannot create fifo {Quoting.always path}" e) 1

/-! ## Sizes -/

/-- Makes files shorter or longer. -/
def truncate : Utility := fun i =>
  let table : OptionTable := .of "" "s" [("size", 's')]
  table.run i.args 1 fun a => do
    let text := (a.value? 's').getD ""
    let size ← match multiplied? text with
      | some size => pure size
      | none => die s!"Invalid number: {← quote text}" 1
    if a.operands.isEmpty then misused "missing file operand" 1
    forEach a.operands fun path => do
      match ← (Act.open_ path making : Act _) with
      | .error e => complain (because s!"cannot open {Quoting.always path} for writing" e) 1
      | .ok descriptor => do
        (Act.change fun pid w =>
          match w.opening? pid descriptor with
          | some (_, o) =>
            match (w.disk.node o.node).body with
            | .file content =>
              let longer := content ++ List.replicate (size - content.length) zeroByte
              { w with disk := w.disk.setContent o.node (longer.take size) }
            | _ => w
          | none => w : Act Unit)
        (Act.close descriptor : Act Unit)

/-! ## Permissions -/

/-- Changes who may do what with files. -/
def chmod : Utility := fun i =>
  match i.args with
  | [] => misused "missing operand" 1
  | [mode] => do misused s!"missing operand after {← quote mode}" 1
  | mode :: paths =>
    match Mode.read? mode with
    | none => do misused s!"invalid mode: {← quote mode}" 1
    | some changes =>
      forEach paths fun path => do
        match ← statusOf true path with
        | .error e => complain (because s!"cannot access {Quoting.always path}" e) 1
        | .ok (id, node) => do
          let mode := Mode.adjust changes node.isDirectory (← currentMask) node.mode
          discard <| change fun d => .ok (d.setMode id mode)

end RecallShell.Machine
