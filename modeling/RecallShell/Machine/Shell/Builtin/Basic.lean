import RecallShell.Machine.Shell.Command
import RecallShell.Machine.Shell.Redirect

/-!
# Commands that a shell carries out itself

Such a command takes its arguments and comes to a status. It changes the shell that runs it, and
what it writes gathers until its end. Some of them run statements; how that is done is handed in.
-/

namespace RecallShell.Machine

/-- How statements are run: whether failures are tested, and whether the shell ends behind them. -/
structure Manner where
  /-- Whether a failure is looked at by a statement around this one. -/
  tested : Bool
  /-- Whether nothing comes behind this statement. -/
  last : Bool

/-- What runs statements. -/
structure Runner where
  /-- Runs a statement. -/
  run : Manner → Statement → Sh Unit
  /-- Whether the command at work is one whose failure is looked at. -/
  tested : Bool

/-- A command that a shell carries out itself. -/
abbrev Builtin := Runner → List String → Sh Nat

namespace Builtin

/-- Gives a command up with a message and a status. -/
def refuse {α : Type} (text : String) (status : Nat) : Sh α := do
  Sh.warn text
  Sh.flush
  Sh.setStatus status
  throw .fault

/-- Gives a command up with a message. -/
def misused {α : Type} (text : String) : Sh α := refuse text Sh.misuse

/-- The greatest number that counts as one. -/
def maxNumber : Nat := 2147483647

/-- The number that an argument must be. -/
def number (arg : String) : Sh Nat := do
  match if arg.toList.all Char.isDigit then arg.toNat?.filter (· ≤ maxNumber) else none with
  | some n => return n
  | none => misused s!"Illegal number: {arg}"

/-- Gives a command up because there is no such option. -/
def refuseLetter {α : Type} (c : Char) : Sh α := do
  misused s!"Illegal option -{c}"

/-- The options of a command, and its operands: letters that stand alone, and letters with a colon
behind them that take a value. -/
def optionsFrom (known : List Char) : Nat → List Char → List String → List (Char × String) →
    Sh (List (Char × String) × List String)
  | 0, _, args, found => return (found.reverse, args)
  | fuel + 1, [], args, found => do
    match args with
    | arg :: rest =>
      match arg.toList with
      | ['-'] => return (found.reverse, args)
      | ['-', '-'] => return (found.reverse, rest)
      | '-' :: letters => optionsFrom known fuel letters rest found
      | _ => return (found.reverse, args)
    | [] => return (found.reverse, [])
  | fuel + 1, c :: letters, args, found => do
    match known.dropWhile (· != c) with
    | [] => refuseLetter c
    | _ :: ':' :: _ =>
      match letters, args with
      | [], [] => misused s!"No arg for -{c} option"
      | [], value :: rest => optionsFrom known fuel [] rest ((c, value) :: found)
      | letters, args => optionsFrom known fuel [] args ((c, String.ofList letters) :: found)
    | _ => do
      if c == ':' then refuseLetter c
      optionsFrom known fuel letters args ((c, "") :: found)

/-- The options of a command, and its operands. -/
def options (known : String) (args : List String) : Sh (List (Char × String) × List String) :=
  optionsFrom known.toList ((args.map String.length).foldl (· + ·) (args.length + 1)) [] args []

/-- Whether an option is among some. -/
def hasOption (options : List (Char × String)) (letter : Char) : Bool :=
  options.any fun o => o.1 == letter

/-- The parts of a text in quotes, quotes in single ones and others in double ones. -/
def quotedRuns : Nat → List Char → List Char
  | 0, _ => []
  | fuel + 1, cs =>
    let plain := cs.takeWhile (· != '\x27')
    let rest := cs.drop plain.length
    let marks := rest.takeWhile (· == '\x27')
    let behind := rest.drop marks.length
    let first := '\x27' :: plain ++ ['\x27']
    if marks.isEmpty then first
    else
      let second := '"' :: marks ++ ['"']
      if behind.isEmpty then first ++ second else first ++ second ++ quotedRuns fuel behind

/-- A value as a script would write it. -/
def quoted (text : String) : String := String.ofList (quotedRuns (text.length + 1) text.toList)

/-- An argument as a name and perhaps a value. -/
def nameAndValue (arg : String) : String × Option String :=
  let name := arg.toList.takeWhile (· != '=')
  (String.ofList name,
    if name.length == arg.length then none
    else some (String.ofList (arg.toList.drop (name.length + 1))))

/-- The numbers of the rows of a table with so many rows, in the order in which they hold names. -/
def inRows {α : Type} (rows : Nat) (entries : List (String × α)) : List (String × α) :=
  let rowOf (name : String) : Nat :=
    ((name.toList.headD '\x00').toNat * 16
      + (name.toList.map Char.toNat).foldl (· + ·) 0) % rows
  (List.range rows).flatMap fun row => entries.filter fun e => rowOf e.1 == row

end Builtin

end RecallShell.Machine
