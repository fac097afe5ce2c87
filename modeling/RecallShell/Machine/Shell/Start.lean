import RecallShell.Machine.Shell.Evaluation

/-!
# Shells at their start

A shell reads its arguments: they give it a script, name a file with one, or leave it to the standard
input. A script in a file is read as far as it is needed, and commands of the script that read the
same file find what comes behind.
-/

namespace RecallShell.Machine

open Text

namespace Sh

/-! ## Variables at the start -/

/-- The variables that a shell sets by itself, unless its environment has them. -/
def ownBindings (parent : Pid) : List (String × Binding) :=
  [("IFS", " \t\n"), ("OPTIND", "1"), ("PATH", searchPath), ("PS4", "+ "),
    ("PPID", toString parent), ("PS1", "# "), ("PS2", "> ")].map fun v => (v.1, { value := some v.2 })

/-- The variables that a shell takes over from its environment. -/
def inheritedBindings (environment : List (String × String)) : List (String × Binding) :=
  environment.filterMap fun v =>
    if isName v.1.toList && v.1 != "IFS" && v.1 != "PPID" then
      some (v.1, { value := some v.2, exported := true })
    else none

/-- The path of the working directory: the one that the environment gives if it leads there. -/
def startDirectory (d : Disk) (environment : List (String × String)) : String :=
  match environment.lookup "PWD" with
  | some path =>
    if path.startsWith "/" && (d.status true (ofOctets path)).toOption == some d.here then path
    else octets (d.pathOf d.here)
  | none => octets (d.pathOf d.here)

/-- A shell that has not read its arguments. -/
def fresh (dialect : Dialect) (program : Loaded) (m : Member) (d : Disk) : Shell :=
  let name := program.argv.headD ""
  let inherited := inheritedBindings program.environment
  let own := (ownBindings m.parent).filter fun v => (inherited.lookup v.1).isNone
  let directory := startDirectory d program.environment
  let pwd : Binding := { value := some directory, exported := true }
  let others := (inherited ++ own).filter fun v => v.1 != "PWD"
  { dialect, name
    title := name
    pid := m.pid
    parent := m.parent
    params := []
    bindings := others ++ [("PWD", pwd)]
    functions := []
    options := []
    traps := []
    deaf := m.ignored
    status := 0
    kept := none
    substituted := 0
    lastJob := none
    jobs := []
    loops := 0
    calls := 0
    scopes := []
    line := 0
    functionLine := 0
    command := none
    hashed := []
    optionPlace := ⟨1, none⟩
    directory
    out := ""
    outFault := none
    script := none
    depth := 0 }

/-! ## Scripts that are read as they are run -/

/-- A script that is being read. -/
structure Source where
  /-- The descriptor that it is read from. -/
  descriptor : Nat
  /-- What has been read and not been run. -/
  chars : List Char
  /-- The line that this begins on. -/
  line : Nat
  /-- Whether there is nothing more to be read. -/
  atEnd : Bool

/-- The number of octets that are read of a script at once. -/
def scriptBlock : Nat := 8192

/-- Reads more of a script. -/
def Source.more (source : Source) : Sh Source := do
  let chars := ((← (Act.read source.descriptor scriptBlock : Act _)).toOption.getD "").toList
  return { source with
    chars := source.chars ++ chars.filter (· != '\x00')
    atEnd := chars.isEmpty }

/-- Shows lines that have been read, if that is asked for. -/
def echoLines (chars : List Char) : Sh Unit := do
  if (← get).has 'v' then sayError (String.ofList chars)

/-- The first lines of some characters. -/
def firstLines : Nat → List Char → List Char
  | 0, _ | _, [] => []
  | count + 1, c :: cs => c :: firstLines (if c == '\n' then count else count + 1) cs

/-- Runs a script as it is read. -/
def runSource (r : Runner) : Nat → Source → Sh Unit
  | 0, _ => pure ()
  | turns + 1, source => do
    if source.chars.isEmpty && !source.atEnd then
      runSource r turns (← source.more)
    else
      let s ← get
      match Complete.read (Reading.ofChars s.dialect (!source.atEnd) source.chars source.line) with
      | .error e =>
        if e.cause == .needsMore && !source.atEnd then runSource r turns (← source.more)
        else do
          echoLines (firstLines (e.line + 1 - source.line) source.chars)
          refuseScript .file (source.chars.getLast? == some '\n') e
      | .ok c => do
        if c.isLast && !source.atEnd then runSource r turns (← source.more)
        else
          echoLines (source.chars.take (source.chars.length - c.rest.length))
          runList r ⟨false, false⟩ c.body
          if !c.isLast then
            runSource r turns { source with chars := c.rest, line := c.line }

/-- Runs the script that comes in on the standard input. -/
def runInput (r : Runner) : Sh Unit :=
  runSource r Act.endless ⟨0, [], 1, false⟩

/-- The least descriptor under which a shell keeps files of its own. -/
def ownDescriptor : Nat := 10

/-- Runs the script in a file. -/
def runFile (r : Runner) (path : String) : Sh Unit := do
  let s ← get
  let opened ← (Act.step fun pid w => w.open_ pid path .input ownDescriptor : Act _)
  match opened with
  | .error e =>
    if s.isRich then
      sayError s!"{s.name}: {path}: {e.text}\n"
      setStatus notFound
      throw .exits
    else fault (openComplaint true path e)
  | .ok descriptor => do
    (Act.change fun pid w => w.update pid fun m =>
      { m with fleeting := descriptor :: m.fleeting } : Act Unit)
    (Act.waitFor fun pid w => w.isMet pid descriptor : Act Unit)
    modify fun s => { s with script := some descriptor, title := path, name := path }
    runSource r Act.endless ⟨descriptor, [], 1, false⟩

/-! ## Arguments -/

/-- Lets the process see to interrupts, if the shell does. -/
def heedInterrupts : Sh Unit := Builtin.heed Signal.interrupt

/-- Reads the arguments of a shell and does what they ask for. -/
def runArguments (r : Runner) (args : List String) : Sh Unit := do
  let s ← get
  match Builtin.Switches.read (args.length + 1)
      ⟨s.dialect, true, s.options, args, false, none⟩ with
  | .error text => fault text
  | .ok o => do
    modify fun s => { s with options := o.options }
    match o.hasScript, o.args with
    | true, [] => fault "-c requires an argument"
    | true, script :: params => do
      let title := params.headD s.name
      modify fun s => { s with title, name := title, params := params.tail }
      heedInterrupts
      runText r ⟨false, s.isRich && !o.options.contains 's'⟩ .given script
      if o.options.contains 's' then runInput r
    | false, [] => do
      modify fun s => { s with options := Builtin.switch true s.options 's' }
      runInput r
    | false, path :: params => do
      if o.options.contains 's' then
        modify fun s => { s with params := path :: params }
        runInput r
      else
        modify fun s => { s with params }
        heedInterrupts
        runFile r path

/-- What a shell does from its start to its end. -/
def start (dialect : Dialect) (program : Loaded) : Activity :=
  let begin_ : Act (Member × Disk) := Act.look fun pid w => (w.member pid, w.diskOf pid)
  begin_.run fun (m, d) =>
    activity (fresh dialect program m d) (live runner (runArguments runner program.argv.tail))

end Sh

end RecallShell.Machine
