import RecallShell.Machine.Utility.Source

/-!
# Utilities that lay out lines

Lines get numbers, are broken or joined, lose parts of themselves, or have blanks in place of tabs.
Columns are counted in octets.
-/

namespace RecallShell.Machine

open Text Work

/-- The number that an option has as its value. -/
def numberOption (a : Arguments) (letter : Char) (default : Nat) (what : String) : Work Nat := do
  match a.value? letter with
  | none => return default
  | some text =>
    match natural? text with
    | some n => return n
    | none => die s!"invalid {what}: {← quote text}" 1

/-! ## Numbers -/

/-- Where the room goes that a number leaves. -/
inductive Filling where
  /-- Behind the number. -/
  | behind
  /-- In front of it, as blanks. -/
  | blanks
  /-- In front of it, as zeros. -/
  | zeros

/-- How lines are numbered. -/
structure Numbered where
  /-- Whether a line gets a number. -/
  counts : String → Bool
  /-- The step from number to number. -/
  increment : Nat
  /-- The width of numbers. -/
  width : Nat
  /-- Where the room goes that a number leaves. -/
  filling : Filling
  /-- What stands behind a number. -/
  separator : String

/-- A line with what stands in front of it, and the number of the next one. -/
def Numbered.line (n : Numbered) (next : Nat) (text : String) : String × Nat :=
  let blanks (count : Nat) : String := String.ofList (List.replicate count ' ')
  if !n.counts text then (blanks (n.width + n.separator.length) ++ text, next)
  else
    let digits := toString next
    let room := n.width - digits.length
    let label := match n.filling with
      | .behind => digits ++ blanks room
      | .blanks => blanks room ++ digits
      | .zeros => String.ofList (List.replicate room '0') ++ digits
    (label ++ n.separator ++ text, next + n.increment)

/-- Writes lines with their numbers. -/
def nl : Utility := fun i =>
  let table : OptionTable := .of "" "binsvw" [("body-numbering", 'b'), ("line-increment", 'i'),
    ("number-format", 'n'), ("number-separator", 's'), ("starting-line-number", 'v'),
    ("number-width", 'w')]
  table.run i.args 1 fun a => do
    let counts : String → Bool ← match (a.value? 'b').getD "t" with
      | "a" => pure fun _ => true
      | "t" => pure fun text => !text.isEmpty
      | "n" => pure fun _ => false
      | text => misused s!"invalid body numbering style: {← quote text}" 1
    let filling : Filling ← match (a.value? 'n').getD "rn" with
      | "ln" => pure .behind
      | "rn" => pure .blanks
      | "rz" => pure .zeros
      | text => misused s!"invalid line numbering format: {← quote text}" 1
    let start ← numberOption a 'v' 1 "starting line number"
    let increment ← numberOption a 'i' 1 "line number increment"
    let width ← numberOption a 'w' 6 "line number field width"
    let n : Numbered := ⟨counts, increment, width, filling, (a.value? 's').getD "\t"⟩
    let numberLine (next : Nat) (text : String) : Work Nat := do
      let (shown, next) := n.line next text
      sayLine shown
      return next
    let numberAll (next : Nat) (path : String) : Work Nat := do
      match ← contentOf path with
      | .ok content => (linesOf content).foldlM numberLine next
      | .error e => do
        complain (unreadable path e) 1
        return next
    discard <| (sources a).foldlM numberAll start

/-! ## Breaking lines -/

/-- The column behind a character. -/
def columnBehind (column : Nat) (c : Char) : Nat :=
  if c == '\x08' then column - 1
  else if c == '\r' then 0
  else if c == '\t' then column + (8 - column % 8)
  else column + 1

/-- A line broken to a width, from a column on. -/
def folded (width : Nat) : Nat → List Char → List Char
  | _, [] => []
  | column, c :: cs =>
    let next := columnBehind column c
    if next ≤ width || column == 0 then c :: folded width next cs
    else '\n' :: c :: folded width (columnBehind 0 c) cs

/-- Breaks lines that are too long. -/
def fold : Utility := fun i =>
  let table : OptionTable := .of "" "w" [("width", 'w')]
  table.run i.args 1 fun a => do
    let text := (a.value? 'w').getD "80"
    match natural? text with
    | none | some 0 => die s!"invalid number of columns: {← quote text}" 1
    | some width =>
      withLines (sources a) 1 fun line ended =>
        say (String.ofList (folded width 0 line.toList) ++ if ended then "\n" else "")

/-- A line with blanks in place of tabs, from a column on. -/
def expanded : Nat → List Char → List Char
  | _, [] => []
  | column, c :: cs =>
    let next := columnBehind column c
    (if c == '\t' then List.replicate (next - column) ' ' else [c]) ++ expanded next cs

/-- Writes blanks in place of tabs. -/
def expand : Utility := fun i =>
  let table : OptionTable := .of "" "" []
  table.run i.args 1 fun a =>
    withLines (sources a) 1 fun line ended =>
      say (String.ofList (expanded 0 line.toList) ++ if ended then "\n" else "")

/-! ## Joining lines -/

/-- Lines of several sources side by side, until all of them are at their ends. -/
def sideBySide : Nat → List (List String) → List (List String)
  | 0, _ => []
  | turns + 1, queues =>
    if queues.all (·.isEmpty) then []
    else queues.map (·.headD "") :: sideBySide turns (queues.map List.tail)

/-- Writes lines of several sources side by side. -/
def paste : Utility := fun i =>
  let table : OptionTable := .of "" "" []
  table.run i.args 1 fun a => do
    let queues ← (sources a).mapM fun path => do
      match ← contentOf path with
      | .ok content => return linesOf content
      | .error e => die (unreadable path e) 1
    for row in sideBySide ((queues.map List.length).foldl max 0) queues do
      sayLine ("\t".intercalate row)

/-! ## Parts of lines -/

/-- The range of positions that a text names; a missing end means no bound. -/
def range? (text : String) : Option (Nat × Option Nat) :=
  match text.splitToList (· == '-') with
  | [one] => (natural? one).map fun n => (n, some n)
  | [first, ""] => (natural? first).map fun n => (n, none)
  | ["", last] => (natural? last).map fun n => (1, some n)
  | [first, last] => do return (← natural? first, some (← natural? last))
  | _ => none

/-- Writes parts of lines. -/
def cut : Utility := fun i =>
  let table : OptionTable := .of "" "bc" [("bytes", 'b'), ("characters", 'c')]
  table.run i.args 1 fun a => do
    match a.options with
    | [] => misused "you must specify a list of bytes, characters, or fields" 1
    | _ :: _ :: _ => misused "only one list may be specified" 1
    | [(_, list)] =>
      match (list.splitToList (· == ',')).mapM range? with
      | none => misused s!"invalid byte/character position {← quote list}" 1
      | some ranges =>
        withLines (sources a) 1 fun line _ =>
          sayLine <| String.ofList <| (line.toList.zipIdx 1).filterMap fun (c, n) =>
            if ranges.any fun r => r.1 ≤ n && r.2.all (n ≤ ·) then some c else none

end RecallShell.Machine
