import RecallShell.Machine.Utility.Source
import RecallShell.Text.Characters

/-!
# Utilities on whole content

These utilities write what they read: all of it, its beginning or its end, or its lines the other way
round. What they have read of a file beyond what they wanted they give back.
-/

namespace RecallShell.Machine

open Text Work

/-! ## Everything -/

/-- A character with controls and high octets made visible. -/
def visible (c : Char) : List Char :=
  let low (n : Nat) : List Char :=
    if n < 32 then ['^', Char.ofNat (n + 64)] else if n == 127 then ['^', '?'] else [Char.ofNat n]
  let n := c.toNat
  if n < 128 then (if c == '\t' then [c] else low n) else 'M' :: '-' :: low (n - 128)

/-- How content is written out with markings. -/
structure Marking where
  /-- Whether lines have numbers. -/
  numbers : Bool
  /-- Whether blank lines have none. -/
  skipsBlank : Bool
  /-- Whether blank lines behind a blank one are left out. -/
  squeezes : Bool
  /-- Whether ends of lines are shown. -/
  ends : Bool
  /-- Whether tabs are shown. -/
  tabs : Bool
  /-- Whether controls are shown. -/
  controls : Bool

namespace Marking

/-- The markings that options ask for. -/
def ofArguments (a : Arguments) : Marking where
  numbers := a.has 'n' || a.has 'b'
  skipsBlank := a.has 'b'
  squeezes := a.has 's'
  ends := a.has 'E' || a.has 'A'
  tabs := a.has 'T' || a.has 'A'
  controls := a.has 'v' || a.has 'A'

/-- A character as it is shown. -/
def char (m : Marking) (c : Char) : List Char :=
  if c == '\n' then (if m.ends then ['$', c] else [c])
  else if c == '\t' then (if m.tabs then ['^', 'I'] else [c])
  else if m.controls then visible c else [c]

/-- A line as it is shown; a carriage return in front of an end that is shown is shown as well. -/
def line (m : Marking) (text : String) : String :=
  let text := if m.ends && text.endsWith "\r\n" then
      String.ofList (text.toList.take (text.length - 2)) ++ "^M\n"
    else text
  String.ofList (text.toList.flatMap m.char)

/-- Lines as they are shown, from a number on, behind a blank line or not; and the number behind
them. -/
def lines (m : Marking) : Nat → Bool → List String → String × Nat
  | number, _, [] => ("", number)
  | number, behindBlank, line :: rest =>
    let isBlank := line == "\n"
    if m.squeezes && isBlank && behindBlank then m.lines number true rest
    else
      let isNumbered := m.numbers && !(isBlank && m.skipsBlank)
      let label := if isNumbered then flushRight 6 number ++ "\t" else ""
      let (shown, last) := m.lines (if isNumbered then number + 1 else number) isBlank rest
      (label ++ m.line line ++ shown, last)

end Marking

/-- The number of octets that are read at once where all of them are passed on. -/
def greatBlock : Nat := 131072

/-- Writes the content of files or of its standard input. -/
def cat : Utility := fun i =>
  let table : OptionTable := .of "AbEnsTv" "" [("number", 'n'), ("number-nonblank", 'b'),
    ("show-all", 'A'), ("show-ends", 'E'), ("show-tabs", 'T'), ("squeeze-blank", 's'),
    ("show-nonprinting", 'v')]
  table.run i.args 1 fun a => do
    let marking := Marking.ofArguments a
    let copy (descriptor : Nat) : Work (Except Errno Unit) :=
      eachPiece descriptor greatBlock fun text => do
        say text
        flush
        if (← get).outFault.isSome then finish
    let mark (descriptor number : Nat) : Work (Except Errno Nat) := do
      match ← (Act.readAll descriptor : Act _) with
      | .error e => return .error e
      | .ok text => do
        let (shown, next) := marking.lines number false (linesWithEnds text)
        say shown
        return .ok next
    let each (number : Nat) (path : String) : Work Nat := do
      match ← openInput path with
      | .error e => do
        complain (unreadable path e) 1
        return number
      | .ok descriptor => do
        let result ← if a.options.isEmpty then pure ((← copy descriptor).map fun _ => number)
          else mark descriptor number
        closeInput descriptor
        match result with
        | .error e => do
          complain (unreadable path e) 1
          return number
        | .ok number => return number
    discard <| (sources a).foldlM each 1

/-- Copies its standard input to files and to its standard output. -/
def tee : Utility := fun i =>
  let table : OptionTable := .of "a" "" [("append", 'a')]
  table.run i.args 1 fun a => do
    let access := if a.has 'a' then Access.behind else Access.output
    let targets ← a.operands.filterMapM fun path => do
      match ← (Act.open_ path access : Act _) with
      | .ok descriptor => return some (path, descriptor)
      | .error e => do
        complain (unreadable path e) 1
        return none
    let rec copy : Nat → List (String × Nat) → Work Unit
      | 0, _ | _, [] => pure ()
      | turns + 1, targets => do
        match ← read 0 8192 with
        | .error e => complain (because "read error" e) 1
        | .ok text =>
          if text.isEmpty then pure ()
          else do
            let kept ← targets.filterM fun t => do
              match ← (Act.write t.2 text : Act _) with
              | .ok () => return true
              | .error e => do
                if e != .brokenPipe then complain (because (Quoting.ifNeeded t.1) e) 1
                return false
            copy turns kept
    copy Act.endless (("standard output", 1) :: targets)

/-! ## The other way round -/

/-- The number of octets that are read at once from the end of a file. -/
def backwardBlock : Nat := 8192

/-- A text cut behind each separator. -/
def recordsOf (separator text : String) : List String :=
  match (text.splitOn separator).reverse with
  | [] => []
  | last :: rest => (rest.map (· ++ separator)).reverse ++ if last.isEmpty then [] else [last]

/-- Reads a file as one does who begins with its end: all of it is found, wherever one stands, and
one ends up behind its first block. -/
def readBackward (descriptor : Nat) : Work (Except Errno String) := do
  match ← (Act.look fun pid w => w.extent? pid descriptor : Act _) with
  | none => (Act.readAll descriptor : Act _)
  | some (_, size) => do
    discard <| (Act.step fun pid w => w.seek pid descriptor 0 : Act _)
    let content ← (Act.readAll descriptor : Act _)
    discard <| (Act.step fun pid w => w.seek pid descriptor (min size backwardBlock) : Act _)
    return content

/-- Writes records in the opposite order. -/
def tac : Utility := fun i =>
  let table : OptionTable := .of "" "s" [("separator", 's')]
  table.run i.args 1 fun a => do
    let separator := (a.value? 's').getD "\n"
    forEach (sources a) fun path => do
      match ← openInput path with
      | .error e =>
        complain (because s!"failed to open {Quoting.always path} for reading" e) 1
      | .ok descriptor => do
        match ← readBackward descriptor with
        | .error e =>
          let shown := if path == "-" then "standard input" else path
          complain (because s!"{Quoting.ifNeeded shown}: read error" e) 1
        | .ok content => say (String.join (recordsOf separator content).reverse)
        closeInput descriptor

/-- Writes the characters of each line the other way round. -/
def rev : Utility := fun i =>
  let table : OptionTable := .of "" "" []
  table.run i.args 1 fun a =>
    withLines (sources a) 1 fun line ended => do
      let cs := if i.hasUnicode then characters line else line.toList
      say (ofCharacters cs.reverse ++ if ended then "\n" else "")

/-! ## The beginning and the end -/

/-- Reads how much is to be written of each source, and whether octets count or lines, and writes
that. -/
def withCount (a : Arguments) (run : Bool → Nat → Nat → Work (Except Errno Unit)) : Work Unit := do
  let octets := a.last? "nc" == some 'c'
  let text := ((if octets then a.value? 'c' else a.value? 'n')).getD "10"
  match multiplied? text with
  | none =>
    let what := if octets then "bytes" else "lines"
    die s!"invalid number of {what}: {← quote text}" 1
  | some count =>
    forEach (sources a) fun path => do
      match ← openInput path with
      | .error e => complain (because s!"cannot open {Quoting.always path} for reading" e) 1
      | .ok descriptor => do
        match ← run octets count descriptor with
        | .ok () => pure ()
        | .error e => complain (because s!"error reading {Quoting.always path}" e) 1
        closeInput descriptor

/-- Writes the first lines; what has been read behind them is given back. -/
def sayLines (descriptor : Nat) : Nat → Nat → Work (Except Errno Unit)
  | 0, _ => return .ok ()
  | turns + 1, count => do
    if count == 0 then return .ok ()
    match ← read descriptor 8192 with
    | .error e => return .error e
    | .ok text =>
      if text.isEmpty then return .ok ()
      else do
        let parts := text.splitToList (· == '\n')
        if parts.length ≤ count then
          say text
          sayLines descriptor turns (count + 1 - parts.length)
        else do
          say (String.join ((parts.take count).map (· ++ "\n")))
          giveBack descriptor ("\n".intercalate (parts.drop count))
          return .ok ()

/-- Writes the first octets. -/
def sayOctets (descriptor : Nat) : Nat → Nat → Work (Except Errno Unit)
  | 0, _ => return .ok ()
  | turns + 1, count => do
    if count == 0 then return .ok ()
    match ← read descriptor (min count 8192) with
    | .error e => return .error e
    | .ok text =>
      if text.isEmpty then return .ok ()
      else do
        say text
        sayOctets descriptor turns (count - text.length)

/-- The options of utilities that write parts of content. -/
def countTable : OptionTable := .of "" "nc" [("lines", 'n'), ("bytes", 'c')]

/-- Writes the beginning of content. -/
def head : Utility := fun i =>
  countTable.run i.args 1 fun a => withCount a fun octets count descriptor =>
    if octets then sayOctets descriptor Act.endless count
    else sayLines descriptor Act.endless count

/-- Writes the end of content. -/
def tail : Utility := fun i =>
  countTable.run i.args 1 fun a => withCount a fun octets count descriptor => do
    match ← (Act.readAll descriptor : Act _) with
    | .error e => return .error e
    | .ok content => do
      let units := if octets then content.toList.map Char.toString else linesWithEnds content
      say (String.join (units.drop (units.length - count)))
      return .ok ()

end RecallShell.Machine
