import RecallShell.Machine.Regex
import RecallShell.Machine.Utility.Source

/-!
# Editing streams

Lines of files, or of the standard input, are taken one after the other and go through a script: a
row of commands, each for every line, for the line with a number or for the last one. Braces make
several commands be for the same lines. What comes out is written, or takes the place of the file.
-/

namespace RecallShell.Machine

open Text Work

/-! ## Scripts -/

/-- The lines that a command is for. -/
inductive EditAddress where
  /-- All of them. -/
  | all
  /-- The line with a number. -/
  | line (number : Nat)
  /-- The last line. -/
  | last
  deriving DecidableEq, Repr, Inhabited

/-- What is put in place of matches. -/
structure Substitution where
  /-- What is looked for. -/
  regex : Regex
  /-- What is put in place: characters, and then perhaps what a group has matched. -/
  parts : List (List Char × Option Nat)
  /-- Whether all matches count, and not only the first one. -/
  global : Bool
  deriving Inhabited

namespace Substitution

/-- What is put in place of a match. -/
def expand (s : Substitution) (found : Regex.Found) : List Char :=
  s.parts.flatMap fun (chars, group) => chars ++ (group.map found.group).getD []

/-- Characters with matches replaced. -/
def replaced (s : Substitution) (cs : List Char) : List Char :=
  let counted := if s.global then s.regex.all cs else (s.regex.all cs).take 1
  let (shown, place) := counted.foldl (fun (shown, place) m =>
    (shown ++ (cs.take m.start).drop place ++ s.expand m, m.stop)) (([] : List Char), 0)
  shown ++ cs.drop place

end Substitution

/-- What a command does. -/
inductive EditDeed where
  /-- The line is dropped. -/
  | delete
  /-- The line is written. -/
  | print
  /-- Editing stops behind the line. -/
  | quit
  /-- The line and the one that is kept change places. -/
  | exchange
  /-- Matches are replaced. -/
  | substitute (s : Substitution)
  deriving Inhabited

/-- A command, for the lines with an address. -/
inductive EditCommand where
  /-- One that does something. -/
  | plain (address : EditAddress) (deed : EditDeed)
  /-- Several commands. -/
  | block (address : EditAddress) (commands : List EditCommand)
  deriving Inhabited

/-! ## Reading scripts -/

/-- Why a script cannot be read. -/
inductive EditCause where
  /-- Something follows a command. -/
  | junk
  /-- A command is not known. -/
  | unknown (c : Char)
  /-- There are lines, but no command for them. -/
  | noCommand
  /-- A substitution is not complete. -/
  | openSubstitution
  /-- A letter behind a substitution is not known. -/
  | unknownFlag
  /-- A group is meant that is not there. -/
  | noGroup (number : Nat)
  /-- A block is not closed. -/
  | openBlock
  /-- A block is closed that was not opened. -/
  | closedBlock
  /-- An expression cannot be read. -/
  | regex (fault : Regex.Fault)
  deriving DecidableEq, Repr

/-- What is said of a cause. -/
def EditCause.text : EditCause → String
  | .junk => "extra characters after command"
  | .unknown c => s!"unknown command: {grave}{c}'"
  | .noCommand => "missing command"
  | .openSubstitution => s!"unterminated {grave}s' command"
  | .unknownFlag => s!"unknown option to {grave}s'"
  | .noGroup number => s!"invalid reference \\{number} on {grave}s' command's RHS"
  | .openBlock => s!"unmatched {grave}\x7b'"
  | .closedBlock => s!"unexpected {grave}\x7d'"
  | .regex fault => fault.text
where
  /-- A grave accent. -/
  grave : String := (Char.ofNat 0x60).toString

/-- A reader of scripts, which keeps the octets that are left. -/
abbrev EditReader := ExceptT EditCause (StateM (List Char))

namespace EditReader

/-- Reads a character. -/
def next? : EditReader (Option Char) := do
  match ← get with
  | [] => return none
  | c :: rest => do
    set rest
    return some c

/-- Reads as long as characters are of some kind. -/
def takeWhile (belongs : Char → Bool) : EditReader (List Char) := do
  let taken := (← get).takeWhile belongs
  modify fun rest => rest.drop taken.length
  return taken

/-- Whether a character is a blank within a line. -/
def isGap (c : Char) : Bool := c == ' ' || c == '\t'

/-- Reads the end of a command; the end of a block is left. -/
def commandEnd : EditReader Unit := do
  discard <| takeWhile isGap
  match ← get with
  | '\x7d' :: _ => return
  | _ =>
    match ← next? with
    | none | some '\n' | some ';' => return
    | some _ => throw .junk

/-- Reads up to a delimiter, before which a backslash makes it a plain character. -/
def delimited (delimiter : Char) : Nat → List Char → EditReader (List Char)
  | 0, _ => throw .openSubstitution
  | fuel + 1, shown => do
    match ← next? with
    | none => throw .openSubstitution
    | some '\\' => do
      match ← next? with
      | none => throw .openSubstitution
      | some c => delimited delimiter fuel (if c == delimiter then c :: shown else c :: '\\' :: shown)
    | some c => if c == delimiter then return shown.reverse else delimited delimiter fuel (c :: shown)

/-- The parts of what is put in place of a match, behind some characters of the first one. -/
def parts : List Char → List Char → List (List Char × Option Nat)
  | [], shown => [(shown.reverse, none)]
  | '&' :: cs, shown => (shown.reverse, some 0) :: parts cs []
  | '\\' :: 'n' :: cs, shown => parts cs ('\n' :: shown)
  | '\\' :: c :: cs, shown =>
    if c.isDigit then (shown.reverse, some (c.toNat - 48)) :: parts cs [] else parts cs (c :: shown)
  | c :: cs, shown => parts cs (c :: shown)

/-- Reads a substitution. -/
def substitution : EditReader EditDeed := do
  match ← next? with
  | none => throw .openSubstitution
  | some delimiter => do
    let fuel := (← get).length + 1
    let pattern ← delimited delimiter fuel []
    let parts := parts (← delimited delimiter fuel []) []
    let flags ← takeWhile Char.isAlpha
    if flags.any (· != 'g') then throw .unknownFlag
    match Regex.read false pattern with
    | .error fault => throw (.regex fault)
    | .ok regex => do
      let asked := (parts.filterMap (·.2)).foldl max 0
      if regex.groups < asked then throw (.noGroup asked)
      commandEnd
      return .substitute ⟨regex, parts, !flags.isEmpty⟩

/-- Reads the lines that a command is for. -/
def address : EditReader EditAddress := do
  let digits ← takeWhile Char.isDigit
  if !digits.isEmpty then return .line (digitsValue 10 digits)
  match ← get with
  | '$' :: _ => do
    discard next?
    return .last
  | _ => return .all

/-- Reads what a command does behind its letter. -/
def deed (letter : Char) : EditReader EditDeed := do
  let plain (deed : EditDeed) : EditReader EditDeed := do
    commandEnd
    return deed
  match letter with
  | 'd' => plain .delete
  | 'p' => plain .print
  | 'q' => plain .quit
  | 'x' => plain .exchange
  | 's' => substitution
  | c => throw (.unknown c)

/-- Reads commands, up to the end or to the brace that closes a block. -/
def commands (inBlock : Bool) : Nat → EditReader (List EditCommand)
  | 0 => return []
  | fuel + 1 => do
    discard <| takeWhile fun c => c.isWhitespace || c == ';'
    if (← get).isEmpty then
      if inBlock then throw .openBlock else return []
    let address ← address
    match ← next? with
    | none => throw .noCommand
    | some '\x7d' => do
      if !inBlock then throw .closedBlock
      commandEnd
      return []
    | some '\x7b' => do
      let inside ← commands true fuel
      return .block address inside :: (← commands inBlock fuel)
    | some letter => do
      let deed ← deed letter
      return .plain address deed :: (← commands inBlock fuel)

/-- The commands of a script, or what is wrong with it and where. -/
def read (text : String) : Except (Nat × EditCause) (List EditCommand) :=
  match (commands false (text.length + 1)).run.run text.toList with
  | (.ok commands, _) => .ok commands
  | (.error .openBlock, _) => .error (0, .openBlock)
  | (.error cause, rest) => .error (text.length - rest.length, cause)

end EditReader

/-! ## Lines -/

/-- What an editor is working on. -/
structure Editor where
  /-- The line, and whether it has an end. -/
  line : List Char × Bool := ([], true)
  /-- The number of the line. -/
  number : Nat := 0
  /-- The line that is kept. -/
  kept : List Char := []
  /-- The line behind it, as long as it is not known whether that is the last one. -/
  waiting : Option (String × Bool) := none
  /-- What has been written. -/
  out : String := ""
  /-- Whether the line that was written last still lacks its end. -/
  unfinished : Bool := false
  /-- Whether editing has been stopped. -/
  stopped : Bool := false

namespace Editor

/-- Writes the line. -/
def write (e : Editor) : Editor :=
  let before := if e.unfinished then "\n" else ""
  let behind := if e.line.2 then "\n" else ""
  { e with out := e.out ++ before ++ String.ofList e.line.1 ++ behind, unfinished := !e.line.2 }

/-- Goes through commands for the line, which may be the last one; says whether it is dropped. -/
def run (last : Bool) : Nat → List EditCommand → Editor → Editor × Bool
  | 0, _, e | _, [], e => (e, false)
  | fuel + 1, command :: rest, e =>
    let isMeant : EditAddress → Bool
      | .all => true
      | .line n => e.number == n
      | .last => last
    match command with
    | .block address commands =>
      match if isMeant address then run last fuel commands e else (e, false) with
      | (e, dropped) => if dropped || e.stopped then (e, dropped) else run last fuel rest e
    | .plain address deed =>
      if !isMeant address then run last fuel rest e
      else
        match deed with
        | .delete => (e, true)
        | .quit => ({ e with stopped := true }, false)
        | .print => run last fuel rest e.write
        | .exchange => run last fuel rest { e with line := (e.kept, e.line.2), kept := e.line.1 }
        | .substitute s => run last fuel rest { e with line := (s.replaced e.line.1, e.line.2) }

/-- Edits the line that waits. -/
def step (commands : List EditCommand) (fuel : Nat) (quiet last : Bool) (e : Editor) : Editor :=
  match e.waiting with
  | none => e
  | some (line, ended) =>
    let e := { e with line := (line.toList, ended), number := e.number + 1, waiting := none }
    let (e, dropped) := run last fuel commands e
    if dropped || quiet then e else e.write

end Editor

/-! ## The utility -/

/-- A script, and how it is gone through. -/
structure EditScript where
  /-- The commands. -/
  commands : List EditCommand
  /-- No less than the number of commands. -/
  size : Nat
  /-- Whether lines are not written unless a command says so. -/
  quiet : Bool

namespace EditScript

/-- Edits the lines of files, which are written if they do not take the place of those in the file. What
has been read of the standard input and not used is given back. -/
def edit (s : EditScript) (writes : Bool) : List String → Editor → Work Editor
  | [], e => emit (e.step s.commands s.size s.quiet true)
  | path :: paths, e => do
    match ← openInput path with
    | .error cause => do
      complain s!"can't read {path}: {cause.text}" 2
      edit s writes paths e
    | .ok descriptor => do
      let each (e : Editor) (line : String) (ended : Bool) : Work (Editor × Bool) := do
        let e ← emit (e.step s.commands s.size s.quiet false)
        return ({ e with waiting := some (line, ended) }, !e.stopped)
      let (e, result) ← foldLines descriptor each Act.endless "" e
      match result with
      | .error cause => die s!"read error on {path}: {cause.text}" 4
      | .ok none => do
        closeInput descriptor
        edit s writes paths e
      | .ok (some rest) => do
        let unread := match e.waiting with
          | some (line, ended) => line ++ (if ended then "\n" else "") ++ rest
          | none => rest
        if descriptor == 0 then giveBack 0 unread
        closeInput descriptor
        return e
where
  /-- Writes what has come out. -/
  emit (e : Editor) : Work Editor := do
    if !writes then return e
    say e.out
    return { e with out := "" }

end EditScript

/-- Edits lines as a script says. -/
def sed : Utility := fun i => do
  let table : OptionTable := .of "ni" "e" [("quiet", 'n'), ("silent", 'n'), ("in-place", 'i'),
    ("expression", 'e')]
  table.run i.args 1 fun a => do
    let (scripts, files) := match a.values 'e', a.operands with
      | [], script :: files => ([script], files)
      | scripts, files => (scripts, files)
    let script := "\n".intercalate scripts
    match EditReader.read script with
    | .error (count, cause) => die s!"-e expression #1, char {count}: {cause.text}" 1
    | .ok commands => do
      let s : EditScript := ⟨commands, script.length + 1, a.has 'n'⟩
      if a.has 'i' then
        forEach files fun path => do
          let e ← s.edit false [path] {}
          if let .error cause ← writeFile path e.out then die s!"couldn't edit {path}: {cause.text}" 4
      else discard <| s.edit true (if files.isEmpty then ["-"] else files) {}

end RecallShell.Machine
