import RecallShell.Machine.Regex
import RecallShell.Machine.Shell.Call

/-!
# Running statements

Statements are run one after the other; what runs the parts of a statement is handed in, down to some
depth. Signals that the shell is to act on wait until the command at work is done.
-/

namespace RecallShell.Machine

open Text

namespace Sh

/-! ## Pipelines and processes left running -/

/-- Looks ahead for the programs of a pipeline, whose places are kept for the next time. -/
def lookAhead : List Statement → Sh Unit
  | [] => pure ()
  | .simple _ _ (w :: _) _ :: rest => do
    let s ← get
    match Word.plain? w with
    | some name =>
      if isName name.toList && (s.functions.lookup name).isNone && (Builtin.find? name).isNone then
        discard <| findPath name
    | none => pure ()
    lookAhead rest
  | _ :: rest => lookAhead rest

/-- Starts the parts of a pipeline, each reading what the one before it writes. -/
def startParts (r : Runner) (tested detached : Bool) :
    Bool → Option Nat → List Statement → List Pid → Sh (List Pid)
  | _, _, [], started => return started.reverse
  | first, source, part :: rest, started => do
    let pipe? ← if rest.isEmpty then pure none
      else do pure (some (← (Act.step fun pid w => w.pipe pid : Act (Nat × Nat))))
    let child ← spawn do
      becomePart detached first
      match pipe? with
      | some (input, _) => (Act.close input : Act Unit)
      | none => pure ()
      match source with
      | some descriptor => moveTo descriptor 0
      | none => pure ()
      match pipe? with
      | some (_, output) => moveTo output 1
      | none => pure ()
      live r (r.run ⟨tested, true⟩ part)
    match source with
    | some descriptor => (Act.close descriptor : Act Unit)
    | none => pure ()
    match pipe? with
    | some (_, output) => (Act.close output : Act Unit)
    | none => pure ()
    startParts r tested detached false (pipe?.map (·.1)) rest (child :: started)

/-- Runs a pipeline. -/
def runPiped (r : Runner) (manner : Manner) (parts : List Statement) : Sh Unit := do
  lookAhead parts
  let started ← startParts r manner.tested false true none parts []
  let statuses ← awaitAll started
  let last := statuses.getLastD 0
  modify fun s => { s with
    status := if s.has Builtin.pipeFailure then (statuses.reverse.find? fun n => n != 0).getD 0
      else last }
  behind r manner true

/-- Leaves a statement running. -/
def runDetached (r : Runner) (line : Nat) (body : Statement) : Sh Unit := do
  modify fun s => { s with line }
  let started ← match body with
    | .piped parts => do
      lookAhead parts
      startParts r false true true none parts []
    | body => do
      let child ← spawn do
        becomePart true true
        live r (r.run ⟨false, true⟩ body)
      pure [child]
  addBatch started
  setStatus 0

/-- Runs statements in a shell of their own, unless the shell at work has nothing else to do. -/
def runPart (r : Runner) (manner : Manner) (line : Nat) (work : Sh Unit) : Sh Unit := do
  modify fun s => { s with line }
  let s ← get
  if manner.last && !s.hasTraps then
    becomePart false true
    discard <| stopOf work
    throw .exits
  else
    let child ← spawn do
      becomePart false true
      live r work
    setStatus ((← awaitAll [child]).headD 0)
    behind r manner true

/-! ## Redirected statements -/

/-- Runs a statement with redirections of its own. -/
def runRedirected (r : Runner) (manner : Manner) (line : Nat) (body : Statement)
    (redirects : List Redirect) : Sh Unit := do
  modify fun s => { s with line }
  let openings ← redirects.mapM (openingOf (engineOf r))
  let redirected (work : Sh Unit) (onFailure : Sh Unit) : Sh Unit := do
    let (kept, problem) ← redirectAll openings []
    match problem with
    | some text => do
      warnAt line text
      flush
      giveBackAll kept
      setStatus misuse
      onFailure
    | none => finally_ work (giveBackAll kept)
  match body with
  | .subshell inner statements =>
    runPart r manner inner
      (redirected (runList r ⟨manner.tested, true⟩ statements) (throw .fault))
  | body => do
    redirected (r.run ⟨manner.tested, false⟩ body) (behind r manner true)
    if manner.last then throw .exits

/-! ## Choices and loops -/

/-- Runs a test: whether it succeeds. -/
def succeeds (r : Runner) (test : List Statement) : Sh Bool := do
  runList r ⟨true, false⟩ test
  return (← get).status == 0

/-- What becomes of a loop when something stops in it. -/
inductive Turn where
  /-- It goes on. -/
  | goesOn
  /-- It ends. -/
  | ends
  deriving DecidableEq

/-- Does something in a loop. -/
def inLoop (work : Sh Unit) : Sh Turn := do
  match ← stopOf work with
  | none => return .goesOn
  | some (.loops levels goesOn) => do
    if 1 < levels then throw (.loops (levels - 1) goesOn)
    return if goesOn then .goesOn else .ends
  | some stop => throw stop

/-- Does something as a loop. -/
def asLoop (work : Sh Unit) : Sh Unit := do
  modify fun s => { s with loops := s.loops + 1 }
  finally_ work (modify fun s => { s with loops := s.loops - 1 })

/-- Runs statements as long as a test comes out as wanted; the status is that of the last turn. -/
def whileLoop (r : Runner) (tested whileSuccess : Bool) (test body : List Statement) :
    Nat → Nat → Sh Unit
  | 0, status => setStatus status
  | turns + 1, status => do
    let outcome ← tryCatch (do return Except.ok (← succeeds r test)) fun stop =>
      return Except.error stop
    match outcome with
    | .error (.loops levels goesOn) => do
      setStatus status
      if 1 < levels then throw (.loops (levels - 1) goesOn)
      else if goesOn then whileLoop r tested whileSuccess test body turns status
    | .error stop => throw stop
    | .ok success => do
      if success != whileSuccess then setStatus status
      else
        match ← inLoop (runList r ⟨tested, false⟩ body) with
        | .ends => pure ()
        | .goesOn => whileLoop r tested whileSuccess test body turns (← get).status

/-- Runs statements for each of some values. -/
def eachLoop (r : Runner) (tested : Bool) (name : String) (body : List Statement) :
    List String → Sh Unit
  | [] => pure ()
  | value :: rest => do
    assign name value
    match ← inLoop (runList r ⟨tested, false⟩ body) with
    | .ends => pure ()
    | .goesOn => eachLoop r tested name body rest

/-- Runs statements as long as an expression is not zero, with another one behind each turn. -/
def countedLoop (r : Runner) (tested : Bool) (test step : Word) (body : List Statement) :
    Nat → Sh Unit
  | 0 => pure ()
  | turns + 1 => do
    if (← arithmetic (← textOf (engineOf r) test)) != 0 then
      match ← inLoop (runList r ⟨tested, false⟩ body) with
      | .ends => pure ()
      | .goesOn => do
        discard <| arithmetic (← textOf (engineOf r) step)
        countedLoop r tested test step body turns

/-- Whether a word matches a pattern, or an expression; what its groups match is kept in a list. -/
def isMatch (engine : Engine) (byExpression : Bool) (w pattern : Word) : Sh Bool := do
  let text ← textOf engine w
  if !byExpression then
    return (Shred.pattern (← expandPieces engine false true false pattern)).covers text.toList
  match Machine.Regex.read true (characters (← textOf engine pattern)) with
  | .error _ => fault "Bad expression"
  | .ok regex =>
    let found? := regex.first? (characters text)
    let groupsOf (found : Machine.Regex.Found) : List String :=
      (List.range (regex.groups + 1)).map fun n => ofCharacters (found.group n)
    assignList "BASH_REMATCH" ((found?.map groupsOf).getD [])
    return found?.isSome

/-- Whether one of some patterns matches a text. -/
def matchesAny (engine : Engine) (text : String) : List Word → Sh Bool
  | [] => return false
  | w :: rest => do
    if (Shred.pattern (← expandPieces engine false true false w)).covers text.toList then return true
    else matchesAny engine text rest

/-- Runs the statements behind the first pattern that matches a text. -/
def choose (r : Runner) (manner : Manner) (text : String) : List Choice → Sh Unit
  | [] => setStatus 0
  | .of patterns body :: rest => do
    if !(← matchesAny (engineOf r) text patterns) then choose r manner text rest
    else if body.isEmpty then setStatus 0
    else runList r manner body

/-! ## Statements -/

/-- Runs a statement, with something that runs its parts. -/
def runWith (r : Runner) (manner : Manner) : Statement → Sh Unit
  | .simple line settings words redirects => runSimple r manner line settings words redirects
  | .both first second => do
    r.run ⟨true, false⟩ first
    if (← get).status == 0 then r.run manner second
    else if manner.last then throw .exits
  | .either first second => do
    r.run ⟨true, false⟩ first
    if (← get).status != 0 then r.run manner second
    else if manner.last then throw .exits
  | .negated body => do
    let negate : Sh Unit := modify fun s => { s with status := if s.status == 0 then 1 else 0 }
    match ← stopOf (r.run ⟨true, false⟩ body) with
    | none => negate
    | some .returns => do
      negate
      throw .returns
    | some stop => throw stop
    if manner.last then throw .exits
  | .piped parts => runPiped r manner parts
  | .group body => do
    runList r manner body
    if manner.last then throw .exits
  | .subshell line body => runPart r manner line (runList r ⟨manner.tested, true⟩ body)
  | .branch test body other => do
    if ← succeeds r test then runList r manner body
    else if other.isEmpty then
      setStatus 0
      if manner.last then throw .exits
    else runList r manner other
  | .loop whileSuccess test body => do
    asLoop (whileLoop r manner.tested whileSuccess test body Act.endless 0)
    if manner.last then throw .exits
  | .each line name words body => do
    modify fun s => { s with line }
    let values ← fieldsOfWords (engineOf r) words
    if values.isEmpty then setStatus 0
    asLoop (eachLoop r manner.tested name body values)
    if manner.last then throw .exits
  | .counted line first test step body => do
    modify fun s => { s with line }
    discard <| arithmetic (← textOf (engineOf r) first)
    asLoop (countedLoop r manner.tested test step body Act.endless)
    if manner.last then throw .exits
  | .matched line byExpression w pattern => do
    modify fun s => { s with line }
    setStatus (if ← isMatch (engineOf r) byExpression w pattern then 0 else 1)
    behind r manner true
  | .select line subject choices => do
    modify fun s => { s with line }
    let text ← textOf (engineOf r) subject
    choose r manner text choices
    if manner.last then throw .exits
  | .define line name body => do
    modify fun s => { s with
      status := 0
      functions := (name, line, body) :: s.functions.filter fun d => d.1 != name }
    if manner.last then throw .exits
  | .redirected line body redirects => runRedirected r manner line body redirects
  | .detached line body => do
    runDetached r line body
    if manner.last then throw .exits

/-- Runs a statement whose parts reach down to some depth. -/
def runTo : Nat → Manner → Statement → Sh Unit
  | 0, _, _ => fault "too deep"
  | depth + 1, manner, statement => do
    let r : Runner := ⟨runTo depth, manner.tested⟩
    if (← get).has 'n' then
      if manner.last then throw .exits
    else
      handleSignals r
      runWith r manner statement

/-- What runs statements. -/
def runner : Runner := ⟨runTo Act.endless, false⟩

end Sh

end RecallShell.Machine
