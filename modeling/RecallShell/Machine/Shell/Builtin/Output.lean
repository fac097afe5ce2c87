import RecallShell.Machine.Format
import RecallShell.Machine.Shell.Builtin.Variables

/-!
# Commands that write, and the working directory

What a shell writes of its arguments, and the directory that it works in. The path of that directory
is kept as it was reached: going up takes a name from the path, whether or not it is a link.
-/

namespace RecallShell.Machine

open Text

namespace Builtin

/-! ## The working directory -/

/-- The path of a directory as it is reached from another one, name by name. -/
def reached (start path : String) : String :=
  let whole := if path.startsWith "/" then path else within start path
  let lead := if whole.startsWith "//" && !whole.startsWith "///" then "//" else "/"
  let names := (whole.splitToList (· == '/')).foldl (fun names name =>
    if name.isEmpty || name == "." then names
    else if name == ".." then names.tail else name :: names) []
  lead ++ "/".intercalate names.reverse

/-- Makes a directory the working directory, unless that cannot be. -/
def enterDirectory (path : String) : Sh (Except Errno Unit) := do
  (Act.step fun pid w =>
    let d := w.diskOf pid
    match d.status true (ofOctets path) with
    | .error e => (.error e, w)
    | .ok id =>
      let n := d.node id
      if !n.isDirectory then (.error .notDirectory, w)
      else if !n.mayRun then (.error .accessDenied, w)
      else (.ok (), w.update pid fun m => { m with directory := id }) : Act _)

/-- Makes a variable part of the environment with a value. -/
def bindExported (name text : String) : Sh Unit := do
  Sh.bindValue name text
  modify fun s =>
    match s.binding? name with
    | some b => s.bind name { b with exported := true }
    | none => s

/-- Goes to a directory, whose path is taken as it is reached or as it is. -/
def goTo (physical : Bool) (path : String) : Sh (Except Errno Unit) := do
  let before := (← get).directory
  let target := if physical then path else reached before path
  match ← enterDirectory target with
  | .error e => return .error e
  | .ok () => do
    let d ← Sh.disk
    let now := if physical then octets (d.pathOf d.here) else target
    modify fun s => { s with directory := now }
    bindExported "OLDPWD" before
    bindExported "PWD" now
    return .ok ()

/-- Whether a path is taken from the working directory or the root, wherever else directories may be
looked for. -/
def isAnchored (path : String) : Bool :=
  path.startsWith "/" || path == "." || path == ".." || path.startsWith "./" || path.startsWith "../"

/-- The options of a command for directories: whether links on the way are followed first. -/
def directoryOptions (args : List String) : Sh (Bool × List String) := do
  let (given, args) ← options "LP" args
  let last := given.reverse.find? fun o => o.1 == 'L' || o.1 == 'P'
  return ((last.map (·.1)) == some 'P', args)

/-- Where a directory is found among those that a variable names: its path, and whether that is worth
telling. -/
def foundDirectory (s : Shell) (d : Disk) (path : String) : String × Bool :=
  if isAnchored path then (path, false)
  else
    let places := match s.textOf? "CDPATH" with
      | some places => places.splitToList (· == ':')
      | none => []
    let found := places.find? fun place =>
      match d.status true (ofOctets (if place.isEmpty then path else within place path)) with
      | .ok id => (d.node id).isDirectory
      | .error _ => false
    match found with
    | some place => (if place.isEmpty then path else within place path, !place.isEmpty)
    | none => (path, false)

/-- Changes the working directory. -/
def cd : Builtin := fun _ args => do
  let (physical, args) ← directoryOptions args
  let s ← get
  let home? : Option String := match args with
    | [] => s.textOf? "HOME"
    | "-" :: _ => s.textOf? "OLDPWD"
    | path :: _ => some path
  let asked := home?.getD ""
  let d ← Sh.disk
  let (path, tells) := foundDirectory s d (if asked.isEmpty then "." else asked)
  match ← goTo physical path with
  | .error _ => misused s!"can't cd to {asked}"
  | .ok () => do
    if tells || args.head? == some "-" then Sh.say ((← get).directory ++ "\n")
    return 0

/-- Writes the path of the working directory. -/
def pwd : Builtin := fun _ args => do
  let (physical, _) ← directoryOptions args
  let d ← Sh.disk
  let s ← get
  Sh.say ((if physical then octets (d.pathOf d.here) else s.directory) ++ "\n")
  return 0

/-! ## Arguments -/

/-- Writes its arguments; escapes always have their meaning. -/
def echo : Builtin := fun _ args => do
  let withEnd := args.head? != some "-n"
  let text := " ".intercalate (if withEnd then args else args.tail)
  let (shown, stops) := shellEscapes.unescape text
  Sh.say (if withEnd && !stops then shown ++ "\n" else shown)
  return 0

/-! ## Formats -/

/-- What a shell says of a fault in a format. -/
def formatText : FormatFault → String
  | .notNumeric arg => s!"{arg}: expected numeric value"
  | .notWholly arg => s!"{arg}: not completely converted"
  | .outOfRange arg => s!"{arg}: {Errno.outOfRange.text}"
  | .ignored rest => s!"{rest}: ignored"
  | .badDirective directive => s!"{directive}: invalid directive"
  | .cutShort _ => "missing format character"

/-- Writes its arguments in a format. -/
def printf : Builtin := fun _ args => do
  let (_, args) ← options "" args
  match args with
  | [] => misused "usage: printf format [arg ...]"
  | format :: args => do
    let r := Format.apply shellFormats format args
    let faults := r.faults.filter fun f => !f.isWarning
    faults.forM fun f => Sh.warn (formatText f)
    Sh.say r.out
    if faults.any FormatFault.isFatal then
      Sh.flush
      Sh.setStatus Sh.misuse
      throw .fault
    return if faults.isEmpty then 0 else 1

end Builtin

end RecallShell.Machine
