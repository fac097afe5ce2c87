import RecallShell.Machine.Shell.Builtin.Basic

/-!
# Commands for parameters, variables and options

Variables can be marked: as part of the environment of programs, as unchangeable, or as a function's
own. Options of the shell have letters, and some of them names as well.
-/

namespace RecallShell.Machine

open Text

namespace Builtin

/-! ## Options -/

/-- The sign of the option with which a pipeline fails as soon as one of its parts does. -/
def pipeFailure : Char := '|'

/-- The options that have names, with their letters. -/
def optionNames (dialect : Dialect) : List (String × Char) :=
  [("errexit", 'e'), ("noglob", 'f'), ("ignoreeof", 'I'), ("interactive", 'i'), ("monitor", 'm'),
    ("noexec", 'n'), ("stdin", 's'), ("xtrace", 'x'), ("verbose", 'v'), ("vi", 'V'), ("emacs", 'E'),
    ("noclobber", 'C'), ("allexport", 'a'), ("notify", 'b'), ("nounset", 'u')]
    ++ if dialect == .rich then [("pipefail", pipeFailure)] else []

/-- The letters that options can be switched by. -/
def switchLetters : List Char := "efIimnsxvVECabu".toList

/-- Switches an option. -/
def switch (on : Bool) (options : List Char) (letter : Char) : List Char :=
  let others := options.filter (· != letter)
  if on then others ++ [letter] else others

/-- The options of a shell while they are read. -/
structure Switches where
  /-- How the shell words things. -/
  dialect : Dialect
  /-- Whether the shell is being started. -/
  starts : Bool
  /-- The options that are switched on. -/
  options : List Char
  /-- The arguments left. -/
  args : List String
  /-- Whether a script is given among the arguments. -/
  hasScript : Bool
  /-- Whether a dash or two ended the options; two of them set the parameters. -/
  ended : Option Bool

namespace Switches

/-- Switches options by their letters, or says which of them there is not. -/
def letters (on : Bool) : List Char → Switches → Except String Switches
  | [], o => .ok o
  | letter :: rest, o =>
    if o.starts && letter == 'c' then letters on rest { o with hasScript := true }
    else if letter == 'o' then
      match o.args with
      | [] => letters on rest o
      | name :: args =>
        match (optionNames o.dialect).lookup name with
        | some l => letters on rest { o with options := switch on o.options l, args := args }
        | none => .error s!"Illegal option -o {name}"
    else if switchLetters.contains letter then
      letters on rest { o with options := switch on o.options letter }
    else .error s!"Illegal option -{letter}"

/-- Switches options as arguments ask for, or says what is wrong with them. -/
def read : Nat → Switches → Except String Switches
  | 0, o => .ok o
  | fuel + 1, o =>
    match o.args with
    | [] => .ok o
    | arg :: args =>
      match arg.toList with
      | ['-'] =>
        if o.starts then .ok { o with args := args }
        else
          .ok { o with
            options := o.options.filter fun c => c != 'x' && c != 'v'
            args := args
            ended := some false }
      | ['-', '-'] => .ok { o with args := args, ended := some true }
      | '-' :: cs => (letters true cs { o with args := args }).bind (read fuel)
      | '+' :: cs => (letters false cs { o with args := args }).bind (read fuel)
      | _ => .ok o

end Switches

/-- Sets options and parameters. -/
def set : Builtin := fun _ args => do
  let s ← get
  match Switches.read (args.length + 1) ⟨s.dialect, false, s.options, args, false, none⟩ with
  | .error text => misused text
  | .ok o => do
    modify fun s => { s with options := o.options }
    if o.ended == some true || !o.args.isEmpty then
      modify fun s => { s with params := o.args, optionPlace := ⟨1, none⟩ }
    return 0

/-! ## Marks -/

/-- Gives up because something is no name of a variable. -/
def refuseName {α : Type} (arg : String) : Sh α := do
  misused s!"{(nameAndValue arg).1}: bad variable name"

/-- Gives variables a mark and perhaps a value. -/
def mark (change : Binding → Binding) : Builtin := fun _ args => do
  args.forM fun arg => do
    let (name, value) := nameAndValue arg
    if !isName name.toList then refuseName arg
    match value with
    | some text => Sh.assign name text
    | none => pure ()
    modify fun s => s.bind name (change ((s.binding? name).getD {}))
  return 0

/-- Makes variables of a function's own. -/
def local_ : Builtin := fun _ args => do
  if (← get).scopes.isEmpty then misused "not in a function"
  args.forM fun arg => do
    let (name, value) := nameAndValue arg
    if name == "-" && value.isNone then
      modify fun s =>
        let noted : Binding := { value := some (String.ofList s.options) }
        { s with scopes := noteLocal s.scopes "-" (some noted) }
    else
      if !isName name.toList then refuseName arg
      let s ← get
      if s.isConstant name && value.isSome then misused (Sh.constantText name)
      modify fun s => { s with scopes := noteLocal s.scopes name (s.binding? name) }
      match value with
      | some text => Sh.assign name text
      | none => pure ()
  return 0
where
  /-- Notes what a variable was before the function made it its own. -/
  noteLocal (scopes : List (List (String × Option Binding))) (name : String)
      (before : Option Binding) : List (List (String × Option Binding)) :=
    match scopes with
    | [] => []
    | scope :: rest =>
      if scope.any fun v => v.1 == name then scope :: rest else ((name, before) :: scope) :: rest

/-- Takes variables or functions away. -/
def unset : Builtin := fun _ args => do
  let (given, names) ← options "vf" args
  names.forM fun name => do
    if (given.getLast?.map (·.1)) == some 'f' then
      modify fun s => { s with functions := s.functions.filter fun d => d.1 != name }
    else
      if !isName name.toList then refuseName name
      if (← get).isConstant name then misused (Sh.constantText name)
      modify fun s => s.unbind name
  return 0

/-! ## Options of scripts -/

/-- The next option among some arguments. -/
def getopts : Builtin := fun _ args => do
  match args with
  | letters :: target :: given => do
    let s ← get
    let args := if given.isEmpty then s.params else given
    let place := if args.length + 1 < s.optionPlace.next then ⟨1, none⟩ else s.optionPlace
    let known := letters.toList.dropWhile (· == ':')
    let quiet := letters.startsWith ":"
    let done (status next : Nat) (rest : Option (List Char)) (shown : Char) : Sh Nat := do
      Sh.bindValue "OPTIND" (toString next)
      Sh.assign target shown.toString
      modify fun s => { s with optionPlace := ⟨next, rest.filter fun cs => !cs.isEmpty⟩ }
      return status
    let atEnd (next : Nat) : Sh Nat := done 1 next none '?'
    let word? := args[place.next - 1]?
    let begun : Option (Char × List Char × Nat) := match place.letters with
      | some (c :: rest) => some (c, rest, place.next)
      | _ =>
        match word?.map String.toList with
        | some ['-', '-'] => none
        | some ('-' :: c :: rest) => some (c, rest, place.next + 1)
        | _ => none
    match begun with
    | none => atEnd (if word? == some "--" then place.next + 1 else place.next)
    | some (c, rest, next) =>
      let complain (text : String) : Sh Unit := do
        Sh.sayError s!"{text}\n"
        modify fun s => s.unbind "OPTARG"
      match if c == ':' then [] else known.dropWhile (· != c) with
      | [] => do
        if quiet then Sh.assign "OPTARG" c.toString
        else complain s!"Illegal option -{c}"
        done 0 next (some rest) '?'
      | _ :: ':' :: _ =>
        match rest, args[next - 1]? with
        | [], none => do
          if quiet then
            Sh.assign "OPTARG" c.toString
            done 0 next none ':'
          else
            complain s!"No arg for -{c} option"
            done 0 next none '?'
        | [], some value => do
          Sh.assign "OPTARG" value
          done 0 (next + 1) none c
        | rest, _ => do
          Sh.assign "OPTARG" (String.ofList rest)
          done 0 next none c
      | _ => do
        Sh.assign "OPTARG" ""
        done 0 next (some rest) c
  | _ => misused "Usage: getopts optstring var [arg]"

end Builtin

end RecallShell.Machine
