import RecallShell.Machine.Shell.Script

/-!
# Commands that change what a shell does next

Loops, functions and scripts are left by stopping what is being run; those who run it go on from
there. Other commands run a text or a file as a script, or let a program take the place of the shell.
-/

namespace RecallShell.Machine

open Text

namespace Builtin

/-- Does nothing and comes to a status. -/
def nothing (status : Nat) : Builtin := fun _ _ => return status

/-- Leaves loops or goes on with them. -/
def loopEnd (goesOn : Bool) : Builtin := fun _ args => do
  let args := if args.head? == some "--" then args.tail else args
  let n ← match args with
    | [] => pure 1
    | arg :: _ => number arg
  let s ← get
  if n == 0 then
    let arg := args.headD "0"
    misused s!"Illegal number: {arg}"
  if s.loops == 0 then return 0
  else do
    Sh.setStatus 0
    throw (.loops (min n s.loops) goesOn)

/-- Returns from a function or a script. -/
def return_ : Builtin := fun _ args => do
  let args := if args.head? == some "--" then args.tail else args
  match args with
  | [] => pure ()
  | arg :: _ => do Sh.setStatus (← number arg)
  throw .returns

/-- Ends the shell. -/
def exit : Builtin := fun _ args => do
  let args := if args.head? == some "--" then args.tail else args
  let s ← get
  match args with
  | [] => Sh.setStatus (s.kept.getD s.status)
  | arg :: _ => do Sh.setStatus (← number arg)
  throw .exits

/-- Takes parameters away at the front. -/
def shift : Builtin := fun _ args => do
  let n ← match args with
    | [] => pure 1
    | arg :: _ => number arg
  if (← get).params.length < n then misused "can't shift that many"
  modify fun s => { s with params := s.params.drop n, optionPlace := ⟨1, none⟩ }
  return 0

/-! ## Running scripts -/

/-- Does something while a command is named in messages, or none. -/
def naming {α : Type} (command : Option String) (work : Sh α) : Sh α := do
  let before := (← get).command
  modify fun s => { s with command }
  Sh.finally_ work (modify fun s => { s with command := before })

/-- Runs its arguments as a script. -/
def eval : Builtin := fun r args => do
  let args := if args.head? == some "--" then args.tail else args
  let text := " ".intercalate args
  if args.isEmpty then return 0
  naming (some "eval") (Sh.runText r ⟨r.tested, false⟩ .evaluated text)
  return (← get).status

/-- A file that is to be run as a script, found by its name. -/
def sourcePath (name : String) : Sh String := do
  if name.toList.contains '/' then return name
  let s ← get
  let d ← Sh.disk
  let isThere (path : String) : Bool :=
    match d.status true (ofOctets path) with
    | .ok id => isScript (d.node id)
    | .error _ => false
  match (candidates (Sh.searchOf s) name).find? isThere with
  | some path => return path
  | none => misused s!"{name}: not found"
where
  /-- Whether a node may be read as a script. -/
  isScript (n : Node) : Bool :=
    match n.body with
    | .file _ | .program _ => true
    | _ => false

/-- The content of a file that is to be run as a script. -/
def sourceText (path : String) : Sh String := do
  match ← (Act.open_ path .input : Act _) with
  | .error e => misused (Sh.openComplaint true path e)
  | .ok descriptor => do
    let content ← (Act.readAll descriptor : Act _)
    (Act.close descriptor : Act Unit)
    return content.toOption.getD ""

/-- Runs a script file in this shell. -/
def dot : Builtin := fun r args => do
  let (_, args) ← options "" args
  match args with
  | [] => return 0
  | name :: _ => do
    let path ← sourcePath name
    let text ← sourceText path
    let guarded : Sh Unit := tryCatch (Sh.runText r ⟨r.tested, false⟩ .file text) fun stop => do
      match stop with
      | .returns => pure ()
      | stop => throw stop
    naming (some path) guarded
    return (← get).status

/-- Becomes a program, or does nothing. -/
def exec : Builtin := fun _ args => do
  let (_, args) ← options "" args
  match args with
  | [] => return 0
  | name :: rest => do
    match ← Sh.findPath name with
    | .ok path => do
      Sh.becomeAt path (name :: rest)
      return Sh.notRunnable
    | .error e => do
      let (text, status) := Sh.notRun (← get) true e
      Sh.warn s!"{name}: {text}"
      Sh.setStatus status
      throw .exits

end Builtin

end RecallShell.Machine
