import RecallShell.Machine.Loading
import RecallShell.Machine.Shell.Statement

/-!
# The state of a shell

A shell keeps variables, functions, what it does on signals, and the processes that it has left
running. What it does is a part of an activity that can change this state and that can stop: to leave
loops or a function, to end the shell, or because something is wrong.
-/

namespace RecallShell.Machine

open Text

/-- A variable of a shell. -/
structure Binding where
  /-- Its value, if it has one. -/
  value : Option String := none
  /-- What is behind its value if that is the first of a list. -/
  more : List String := []
  /-- Whether programs find it in their environment. -/
  exported : Bool := false
  /-- Whether it can no longer be changed. -/
  constant : Bool := false
  deriving DecidableEq, Repr, Inhabited

/-- The list that a variable stands for. -/
def Binding.elements (b : Binding) : List String := b.value.toList ++ b.more

/-- A process of a job, and how it ended if it has. -/
structure Part where
  /-- Its number. -/
  pid : Pid
  /-- How it ended. -/
  ending : Option ExitStatus
  deriving DecidableEq, Repr

/-- Processes that a shell has left running together. -/
structure Batch where
  /-- The number by which the shell asks for them. -/
  number : Nat
  /-- The processes. -/
  parts : List Part
  /-- Whether the shell has waited for them since they ended. -/
  waited : Bool
  deriving DecidableEq, Repr

namespace Batch

/-- Whether all processes have ended. -/
def isOver (b : Batch) : Bool := b.parts.all fun p => p.ending.isSome

/-- How the last process ended. -/
def ending? (b : Batch) : Option ExitStatus := b.parts.getLast?.bind (·.ending)

end Batch

/-- Where the reading of options by a script has come to: the number of the argument and the
characters of it that are left. -/
structure OptionPlace where
  /-- The number of the next argument. -/
  next : Nat
  /-- The letters left of the argument before it. -/
  letters : Option (List Char)
  deriving DecidableEq, Repr, Inhabited

/-- A shell. -/
structure Shell where
  /-- Its language. -/
  dialect : Dialect
  /-- The name it was called by, which begins its messages. -/
  name : String
  /-- The value of the parameter zero. -/
  title : String
  /-- Its own number, which subshells take over. -/
  pid : Pid
  /-- The number of the process that started it. -/
  parent : Pid
  /-- Its positional parameters. -/
  params : List String
  /-- Its variables. -/
  bindings : List (String × Binding)
  /-- Its functions, each with the line that it begins on. -/
  functions : List (String × Nat × Statement)
  /-- The options that are switched on. -/
  options : List Char
  /-- What it does on signals; nothing at all for the empty text. -/
  traps : List (Signal × String)
  /-- The signals that it has ignored since its start. -/
  deaf : List Signal
  /-- The status of the last command. -/
  status : Nat
  /-- The status to end with if a trap ends the shell without one. -/
  kept : Option Nat
  /-- The status of the last output that was substituted. -/
  substituted : Nat
  /-- The process left running last. -/
  lastJob : Option Pid
  /-- The processes left running, the current ones first. -/
  jobs : List Batch
  /-- The number of loops that are being run. -/
  loops : Nat
  /-- The number of functions that are being run. -/
  calls : Nat
  /-- What variables of functions' own were before, for each function that is being run. -/
  scopes : List (List (String × Option Binding))
  /-- The line that is being run. -/
  line : Nat
  /-- The line on which the function that is being run begins. -/
  functionLine : Nat
  /-- The command that is at work, for messages. -/
  command : Option String
  /-- The paths of programs that have been found. -/
  hashed : List (String × String)
  /-- Where reading options has come to. -/
  optionPlace : OptionPlace
  /-- The path of the working directory, as it was reached. -/
  directory : String
  /-- What a command of the shell itself has written and what has not been sent yet. -/
  out : String
  /-- Whether writing that has failed. -/
  outFault : Option Errno
  /-- The descriptor that the script is read from, if it is read from a file. -/
  script : Option Nat
  /-- Whether it is a shell that another one has started as a part of itself. -/
  depth : Nat
  deriving Inhabited

/-- Why a shell does not go on with what it is doing. -/
inductive Stop where
  /-- Some loops are left, or gone on with. -/
  | loops (levels : Nat) (goesOn : Bool)
  /-- The function or the script is left. -/
  | returns
  /-- The shell ends. -/
  | exits
  /-- Something is wrong, and the shell ends unless it has gone wrong in a part of it. -/
  | fault
  deriving DecidableEq, Repr

/-- A part of the work of a shell. -/
abbrev Sh := ExceptT Stop (StateT Shell Act)

namespace Shell

/-- Whether the language is the rich one. -/
def isRich (s : Shell) : Bool := s.dialect == .rich

/-- The letters of all options, in the order in which they are listed. -/
def optionLetters : String := "ubaCEVvxsnmiIfe"

/-- Whether an option is switched on. -/
def has (s : Shell) (option : Char) : Bool := s.options.contains option

/-- A variable, if there is one of that name. -/
def binding? (s : Shell) (name : String) : Option Binding := s.bindings.lookup name

/-- Puts a variable in place of one in a list, or behind the others. -/
def putBinding (name : String) (binding : Binding) :
    List (String × Binding) → List (String × Binding)
  | [] => [(name, binding)]
  | v :: vs => if v.1 == name then (name, binding) :: vs else v :: putBinding name binding vs

/-- Puts a variable in place of the one of that name. -/
def bind (s : Shell) (name : String) (binding : Binding) : Shell :=
  { s with bindings := putBinding name binding s.bindings }

/-- Takes a variable away. -/
def unbind (s : Shell) (name : String) : Shell :=
  { s with bindings := s.bindings.filter fun v => v.1 != name }

/-- The text that a variable stands for. -/
def textOf? (s : Shell) (name : String) : Option String :=
  (s.binding? name).bind (·.value)

/-- Gives a variable back what it was. -/
def giveBack (s : Shell) (former : String × Option Binding) : Shell :=
  match former.2 with
  | some binding => s.bind former.1 binding
  | none => s.unbind former.1

/-- Whether a variable may not be changed. -/
def isConstant (s : Shell) (name : String) : Bool := (s.binding? name).any (·.constant)

/-- The number of rows of the table that a shell keeps its variables in. -/
def rowCount : Nat := 39

/-- The row of a variable. -/
def rowOf (name : String) : Nat :=
  let cs := name.toList
  ((cs.headD '\x00').toNat * 16 + (cs.map Char.toNat).foldl (· + ·) 0) % rowCount

/-- The variables that programs find in their environment, row by row. -/
def environment (s : Shell) : List (String × String) :=
  let all := s.bindings.filterMap fun v =>
    if v.2.exported then v.2.value.map fun text => (v.1, text) else none
  (List.range rowCount).flatMap fun row => all.filter fun v => rowOf v.1 == row

/-- The line within the function that is being run. -/
def lineNumber (s : Shell) : Nat :=
  if s.functionLine == 0 then s.line else s.line + 1 - s.functionLine

/-- The characters that values fall apart at. -/
def separators (s : Shell) : List Char := ((s.textOf? "IFS").getD " \t\n").toList

/-- What stands between values that are joined. -/
def joint (s : Shell) : String :=
  match s.textOf? "IFS" with
  | none => " "
  | some separators => String.ofList (separators.toList.take 1)

/-- The letters of the options that are switched on. -/
def letters (s : Shell) : String :=
  String.ofList (optionLetters.toList.filter s.has)

/-- The value of a parameter, if it has one. -/
def value? (s : Shell) (name : String) : Option String :=
  match name with
  | "0" => some s.title
  | "#" => some (toString s.params.length)
  | "?" => some (toString s.status)
  | "$" => some (toString s.pid)
  | "!" => s.lastJob.map toString
  | "@" | "*" => if s.params.isEmpty then none else some (s.joint.intercalate s.params)
  | "-" => some s.letters
  | "LINENO" => some (toString s.lineNumber)
  | name =>
    match name.toNat? with
    | some n => s.params[n - 1]?
    | none => s.textOf? name

/-- Whether there is something to do on a signal. -/
def hasTraps (s : Shell) : Bool := s.traps.any fun t => !t.2.isEmpty

end Shell

namespace Sh

/-! ## Messages -/

/-- Writes to the standard error. -/
def sayError (text : String) : Sh Unit := do
  discard <| (Act.write 2 text : Act _)

/-- Writes a message about a line. -/
def warnAt (line : Nat) (text : String) : Sh Unit := do
  let s ← get
  let context := match s.command with
    | some command => s!"{command}: "
    | none => ""
  sayError (if s.isRich then s!"{s.name}: line {line}: {context}{text}\n"
    else s!"{s.name}: {line}: {context}{text}\n")

/-- Writes a message. -/
def warn (text : String) : Sh Unit := do warnAt (← get).line text

/-- Sets the status. -/
def setStatus (status : Nat) : Sh Unit := modify fun s => { s with status }

/-- The status of a shell that gives up. -/
def misuse : Nat := 2

/-- The status of a shell whose command is not found. -/
def notFound : Nat := 127

/-- The status of a shell whose command cannot be run. -/
def notRunnable : Nat := 126

/-- The least status of a process that a signal ended. -/
def signalBase : Nat := 128

/-- Writes what a command of the shell itself has gathered. -/
def flush : Sh Unit := do
  let s ← get
  if !s.out.isEmpty then
    set { s with out := "" }
    match ← (Act.write 1 s.out : Act _) with
    | .ok () => pure ()
    | .error e => modify fun s => { s with outFault := some e }

/-- The number of octets that are written at once. -/
def blockSize : Nat := 8192

/-- Gathers output of a command of the shell itself. -/
def say (text : String) : Sh Unit := do
  modify fun s => { s with out := s.out ++ text }
  if blockSize ≤ (← get).out.utf8ByteSize then flush

/-- Gives up because something is wrong. -/
def fault {α : Type} (text : String) : Sh α := do
  warn text
  flush
  setStatus misuse
  throw .fault

/-- Gives up because something is wrong on a line. -/
def faultAt {α : Type} (line : Nat) (text : String) : Sh α := do
  warnAt line text
  flush
  setStatus misuse
  throw .fault

/-! ## Variables -/

/-- Notes what follows from a variable that has been set. -/
def noteSet (name : String) : Sh Unit := do
  match name with
  | "PATH" => modify fun s => { s with hashed := [] }
  | "OPTIND" => modify fun s =>
    match ((s.textOf? "OPTIND").getD "").toNat? with
    | some n => { s with optionPlace := ⟨max n 1, none⟩ }
    | none => s
  | _ => pure ()

/-- Gives a variable a value, whether or not it may be changed. -/
def bindValue (name value : String) : Sh Unit := do
  modify fun s =>
    let old := (s.binding? name).getD {}
    s.bind name { old with value := some value, exported := old.exported || s.has 'a' }
  noteSet name

/-- What is said of a variable that may not be changed. -/
def constantText (name : String) : String := s!"{name}: is read only"

/-- Gives a variable a value. -/
def assign (name value : String) : Sh Unit := do
  if (← get).isConstant name then fault (constantText name)
  bindValue name value

/-- Gives a variable a list. -/
def assignList (name : String) (values : List String) : Sh Unit := do
  assign name (values.headD "")
  modify fun s =>
    s.bind name { (s.binding? name).getD {} with value := values.head?, more := values.tail }

/-- Does something and then something else, whatever the first comes to. -/
def finally_ {α : Type} (work : Sh α) (after : Sh Unit) : Sh α := do
  let r ← tryCatch (do return Except.ok (← work)) fun stop => return Except.error stop
  after
  match r with
  | .ok a => return a
  | .error stop => throw stop

/-! ## Processes -/

/-- The disk as the shell sees it. -/
def disk : Sh Disk := Act.disk

/-- The status that stands for how a process ended. -/
def statusOf : ExitStatus → Nat
  | .code value => value.toNat
  | .signal number => signalBase + number.toNat

/-- What is said of a process that a signal ended, if anything is. -/
def endText? : ExitStatus → Option String
  | .code _ => none
  | .signal number =>
    if number == Signal.interrupt || number == Signal.pipe then none
    else some (Signal.text number)

/-- Takes note of the processes left running that have ended. -/
def collect : Sh Unit := do
  let running := (← get).jobs.flatMap fun b => b.parts.filterMap fun p =>
    if p.ending.isNone then some p.pid else none
  if !running.isEmpty then
    let ended ← (Act.step fun pid w =>
      let ended := running.filterMap fun r => w.endedChild? pid (· == r)
      (ended, ended.foldl (fun w m => w.forget m.1) w) : Act _)
    modify fun s => { s with
      jobs := s.jobs.map fun b => { b with
        parts := b.parts.map fun p =>
          { p with ending := p.ending.orElse fun _ => ended.lookup p.pid } } }

end Sh

end RecallShell.Machine
