import RecallShell.Machine.Shell.Brace
import RecallShell.Machine.Shell.Part

/-!
# Commands on a line

The words of a command are expanded, its redirections are carried out and its variables are set;
then it is run. Commands of the shell itself and functions run in the shell, programs in processes
of their own. A shell that has nothing else to do becomes the program itself.
-/

namespace RecallShell.Machine

open Text

namespace Sh

/-! ## Words of commands -/

/-- Whether a command takes arguments that set variables. -/
def takesSettings (s : Shell) (fields : List String) : Bool :=
  match fields with
  | name :: _ =>
    (s.functions.lookup name).isNone && ["export", "local", "readonly"].contains name
  | [] => false

/-- Whether a word looks like one that sets a variable. -/
def looksLikeSetting (w : Word) : Bool :=
  let name := w.atoms.takeWhile fun
    | .char c false => c != '='
    | _ => false
  match w.atoms.drop name.length with
  | .char _ false :: _ =>
    isName (name.filterMap fun
      | .char c _ => some c
      | .piece _ => none)
  | _ => false

/-- Expands the words of a command, behind the fields of those before them. -/
def expandWords (engine : Engine) : List Word → List String → Sh (List String)
  | [], fields => return fields
  | w :: rest, fields => do
    let s ← get
    let more ←
      if looksLikeSetting w && takesSettings s fields then do
        pure [Shred.text (← expandPieces engine false true true w)]
      else fieldsFrom (← expandPieces engine true true false w)
    expandWords engine rest (fields ++ more)

/-- Expands the words of a command. -/
def fieldsOfWords (engine : Engine) (words : List Word) : Sh (List String) := do
  expandWords engine (if (← get).isRich then words.flatMap Word.withoutBraces else words) []

/-! ## Setting variables -/

/-- Sets a variable: its name, and how that is shown. -/
def applySetting (engine : Engine) : Setting → Sh (String × String)
  | .of name value => do
    let text := Shred.text (← expandPieces engine false true true value)
    assign name text
    return (name, s!"{name}={text}")
  | .list name values => do
    assignList name (← fieldsOfWords engine values)
    return (name, s!"{name}=(...)")

/-- The variable that a setting sets. -/
def settingName : Setting → String
  | .of name _ | .list name _ => name

/-- Has programs find a variable in their environment. -/
def export_ (name : String) : Sh Unit := modify fun s =>
  match s.binding? name with
  | some b => s.bind name { b with exported := true }
  | none => s

/-- Sets variables for one command alone: part of its environment. -/
def applyLocally (engine : Engine) : List Setting → List (String × Option Binding) → List String →
    Sh (List (String × Option Binding) × List String)
  | [], formers, shown => return (formers, shown)
  | setting :: rest, formers, shown => do
    let former : String × Option Binding :=
      (settingName setting, (← get).binding? (settingName setting))
    let (name, text) ← applySetting engine setting
    export_ name
    applyLocally engine rest (former :: formers) (shown ++ [text])

/-- Sets variables for good. -/
def applyAll (engine : Engine) (exports : Bool) : List Setting → Sh (List String)
  | [] => return []
  | setting :: rest => do
    let (name, text) ← applySetting engine setting
    if exports then export_ name
    return text :: (← applyAll engine exports rest)

/-- Gives variables back what they were. -/
def giveBackVariables (formers : List (String × Option Binding)) : Sh Unit :=
  formers.forM fun former => do
    if former.1 == "-" then
      match former.2.bind (·.value) with
      | some options => modify fun s => { s with options := options.toList }
      | _ => pure ()
    else
      modify fun s => s.giveBack former
      if former.1 == "PATH" then modify fun s => { s with hashed := [] }

/-! ## Showing commands -/

/-- Shows a command before it is run. -/
def trace (descriptor : Nat) (settings fields : List String) : Sh Unit := do
  let s ← get
  if s.has 'x' then
    let mark := (s.textOf? "PS4").getD "+ "
    discard <| (Act.write descriptor (mark ++ " ".intercalate (settings ++ fields) ++ "\n") : Act _)

/-! ## Running commands -/

/-- The greatest number of functions that call each other. -/
def maxCalls : Nat := 1000

/-- Runs a function; variables that were set for it alone are its own. -/
def callFunction (r : Runner) (tested : Bool) (defined : Nat) (body : Statement)
    (args : List String) (formers : List (String × Option Binding)) : Sh Unit := do
  let before ← get
  if maxCalls ≤ before.calls then
    fault s!"Maximum function recursion depth ({maxCalls}) reached"
  set { before with
    params := args
    functionLine := defined
    loops := 0
    optionPlace := ⟨1, none⟩
    calls := before.calls + 1
    scopes := formers :: before.scopes }
  let run : Sh Unit := tryCatch (r.run ⟨tested, false⟩ body) fun stop => do
    match stop with
    | .returns => pure ()
    | stop => throw stop
  finally_ run do
    let scope := (← get).scopes.headD []
    giveBackVariables scope
    modify fun s => { s with
      params := before.params
      functionLine := before.functionLine
      loops := before.loops
      optionPlace := before.optionPlace
      calls := before.calls
      scopes := before.scopes }

/-- Writes what a command of the shell itself has left to be written: whether that fails. -/
def flushAll (name : String) : Sh Bool := do
  flush
  let s ← get
  match s.outFault with
  | none => return false
  | some _ => do
    warn s!"{name}: I/O error"
    modify fun s => { s with outFault := none }
    return true

/-- Runs a command of the shell itself. Only the failure of a special one goes further than that. -/
def callBuiltin (r : Runner) (tested special : Bool) (name : String) (run : Builtin)
    (args : List String) : Sh Unit := do
  let before := (← get).command
  modify fun s => { s with command := some name }
  let result ← tryCatch (do
    let status ← run ⟨r.run, tested⟩ args
    let failed ← flushAll name
    return Except.ok (if failed && status % 2 == 0 then status + 1 else status))
    fun stop => return Except.error stop
  modify fun s => { s with command := before, out := "" }
  match result with
  | .ok status => setStatus status
  | .error .fault => if special then throw .fault
  | .error stop => throw stop

/-- Runs a program, in place of the shell if nothing comes behind it. -/
def callProgram (last : Bool) (argv : List String) : Sh Unit := do
  let name := argv.headD ""
  match ← findPath name with
  | .error e => do
    let (text, status) := notRun (← get) false e
    warn s!"{name}: {text}"
    setStatus status
  | .ok path => do
    if last && !(← get).hasTraps then becomeAt path argv
    else
      let child ← spawn do
        discard <| stopOf (becomeAt path argv)
        (Act.exit (← get).status : Act Unit)
      setStatus ((← awaitAll [child]).headD 0)

/-- What becomes of a shell behind a command: it may end because that has failed, or because nothing
comes behind it. -/
def behind (r : Runner) (manner : Manner) (checked : Bool) : Sh Unit := do
  let status := (← get).status
  handleSignals r
  if checked && status != 0 && (← get).has 'e' && !manner.tested then throw .exits
  if manner.last then throw .exits

/-- What a command is. -/
inductive Target where
  /-- Nothing but settings and redirections. -/
  | nothing
  /-- A function. -/
  | function (line : Nat) (body : Statement)
  /-- A command of the shell itself. -/
  | builtin (run : Builtin)
  /-- A program. -/
  | program

/-- What a command is, by its name. -/
def targetOf (s : Shell) : List String → Target
  | [] => .nothing
  | name :: _ =>
    match s.functions.lookup name with
    | some (line, body) => .function line body
    | none =>
      match Builtin.find? name with
      | some run => .builtin run
      | none => .program

/-- Runs a command whose words and redirections have been seen to. -/
def runCall (r : Runner) (manner : Manner) (traceTo : Nat) (settings : List Setting)
    (fields : List String) (target : Target) (special : Bool) : Sh Unit := do
  let engine := engineOf r
  let name := fields.headD ""
  let args := fields.tail
  let isLocal := match target with
    | .nothing => false
    | _ => !special
  let (formers, shown) ←
    if isLocal then applyLocally engine settings [] []
    else do
      let shown ← applyAll engine (name == "exec" && !args.isEmpty) settings
      pure ([], shown)
  trace traceTo shown fields
  match target with
  | .nothing => do setStatus (← get).substituted
  | .function line body => callFunction r manner.tested line body args formers
  | .builtin run =>
    finally_ (callBuiltin r manner.tested special name run args) (giveBackVariables formers)
  | .program =>
    finally_ (callProgram manner.last fields) (giveBackVariables formers)

/-- Runs a command on a line. -/
def runSimple (r : Runner) (manner : Manner) (line : Nat) (settings : List Setting)
    (words : List Word) (redirects : List Redirect) : Sh Unit := do
  modify fun s => { s with line, substituted := 0 }
  let engine := engineOf r
  let fields ← fieldsOfWords engine words
  let s ← get
  let name := fields.headD ""
  let target := targetOf s fields
  let special := match target with
    | .builtin _ => specialCommands.contains name
    | _ => false
  let openings ← redirects.mapM (openingOf engine)
  let (kept, problem) ← redirectAll openings []
  match problem with
  | some text => do
    warn text
    flush
    giveBackAll kept
    setStatus misuse
    if special then throw .fault
  | none => do
    let traceTo := ((kept.find? fun k => k.descriptor == 2).bind (·.place)).getD 2
    let run := runCall r manner traceTo settings fields target special
    if kept.isEmpty then run
    else
      match ← stopOf run with
      | some stop => do
        giveBackAll kept
        throw stop
      | none => if name == "exec" then forgetAll kept else giveBackAll kept
  behind r manner true

end Sh

end RecallShell.Machine
