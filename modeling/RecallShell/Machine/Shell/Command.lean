import RecallShell.Machine.Shell.Batch

/-!
# Finding and running programs

A program is found in the directories that a variable names, and where it was found is kept for the
next time. It takes the place of the shell, or of a child of the shell.
-/

namespace RecallShell.Machine

open Text

namespace Sh

/-- The directories that a shell looks for programs in. -/
def searchOf (s : Shell) : String := (s.textOf? "PATH").getD ""

/-- Whether a path leads to a file that may be run. -/
def isRunnable (d : Disk) (path : String) : Bool :=
  match d.status true (ofOctets path) with
  | .ok id =>
    let n := d.node id
    n.mayRun && match n.body with
      | .file _ | .program _ => true
      | _ => false
  | .error _ => false

/-- Where a program is found by its name, or why it is not. -/
def pathOf (d : Disk) (search name : String) : Except Errno String :=
  let paths := candidates search name
  match paths.find? (isRunnable d) with
  | some path => .ok path
  | none =>
    let causes := paths.filterMap fun path =>
      match d.status true (ofOctets path) with
      | .ok _ => some Errno.accessDenied
      | .error e => if e = .noEntry || e = .notDirectory then none else some e
    .error (causes.getLast?.getD .noEntry)

/-- Where a program is found by its name, which is kept for the next time. -/
def findPath (name : String) : Sh (Except Errno String) := do
  if name.toList.contains '/' then return .ok name
  let s ← get
  match s.hashed.lookup name with
  | some path => return .ok path
  | none =>
    match pathOf (← disk) (searchOf s) name with
    | .ok path => do
      modify fun s => { s with hashed := s.hashed ++ [(name, path)] }
      return .ok path
    | .error e => return .error e

/-- The cause why a program cannot be run, in words, and the status for it. -/
def notRun (s : Shell) (isPath : Bool) (cause : Errno) : String × Nat :=
  if cause = .noEntry || cause = .notDirectory then
    (if s.isRich then "command not found" else "not found", notFound)
  else
    (cause.text,
      if !isPath || cause = .linkLoop || cause = .nameTooLong then notFound else notRunnable)

/-- Becomes the program at a path. -/
def becomeAt (path : String) (argv : List String) : Sh Unit := do
  let s ← get
  let d ← disk
  match loadOrScript d path argv s.environment with
  | .ok program => (Act.become program : Act Unit)
  | .error e => do
    let (text, status) := notRun s (path.toList.contains '/') e
    let name := argv.headD ""
    warn s!"{name}: {text}"
    setStatus status
    throw .exits

end Sh

end RecallShell.Machine
