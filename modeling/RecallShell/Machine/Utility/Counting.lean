import RecallShell.Machine.Utility.Source
import RecallShell.Text.Blank
import RecallShell.Text.Characters

/-!
# Counting

Lines, words, characters and octets are counted, and the columns of the longest line. A word is a run
of characters that show something, and blanks set words apart.
-/

namespace RecallShell.Machine

open Text Work

/-! ## Columns -/

/-- The ranges of characters that take two columns: letters of the East, full forms and pictures. -/
def wideRanges : List (Nat × Nat) :=
  [(0x1100, 0x115F), (0x2E80, 0x303E), (0x3041, 0xA4CF), (0xA960, 0xA97F), (0xAC00, 0xD7A3),
    (0xF900, 0xFAFF), (0xFE30, 0xFE6F), (0xFF01, 0xFF60), (0xFFE0, 0xFFE6), (0x1F300, 0x1F64F),
    (0x20000, 0x3FFFD)]

/-- The number of columns that a character takes. -/
def columnsOf (c : Char) : Nat :=
  if !isPrintable c || isCombining c then 0
  else if inRanges wideRanges c.toNat then 2
  else 1

/-! ## Counts -/

/-- What has been counted so far. -/
structure Counts where
  /-- The lines. -/
  lines : Nat
  /-- The words. -/
  words : Nat
  /-- The characters. -/
  chars : Nat
  /-- The octets. -/
  bytes : Nat
  /-- The columns of the longest line. -/
  longest : Nat
  deriving DecidableEq, Repr, Inhabited

namespace Counts

/-- Nothing counted. -/
def zero : Counts := ⟨0, 0, 0, 0, 0⟩

/-- Two counts together. -/
def plus (a b : Counts) : Counts :=
  ⟨a.lines + b.lines, a.words + b.words, a.chars + b.chars, a.bytes + b.bytes,
    max a.longest b.longest⟩

/-- Counting on: the counts, the column, and whether a word goes on. -/
structure At where
  /-- What has been counted. -/
  counts : Counts
  /-- The column. -/
  column : Nat
  /-- Whether a word goes on. -/
  inWord : Bool

/-- Counts one more character. -/
def At.char (unicode : Bool) (s : At) (c : Char) : At :=
  let isOctet := unicode && isMark c
  let counts := { s.counts with chars := s.counts.chars + if isOctet then 0 else 1 }
  let gap (counts : Counts) (column : Nat) : At :=
    let words := if s.inWord then counts.words + 1 else counts.words
    ⟨{ counts with words, longest := max counts.longest s.column }, column, false⟩
  if c == '\n' then gap { counts with lines := counts.lines + 1 } 0
  else if c == '\r' || c == '\x0c' then gap counts 0
  else if c == '\t' then { gap counts (s.column + (8 - s.column % 8)) with counts :=
    { (gap counts 0).counts with longest := counts.longest } }
  else if c == ' ' then { gap counts (s.column + 1) with counts :=
    { (gap counts 0).counts with longest := counts.longest } }
  else if c == '\x0b' then { gap counts s.column with counts :=
    { (gap counts 0).counts with longest := counts.longest } }
  else if isOctet || !(if unicode then isPrintable c || isBlank c else ' ' ≤ c && c ≤ '~') then
    { s with counts }
  else
    let column := s.column + columnsOf c
    if isBlank c then { gap counts column with counts :=
      { (gap counts 0).counts with longest := counts.longest } }
    else ⟨counts, column, true⟩

/-- The counts of a text. -/
def ofText (unicode : Bool) (text : String) : Counts :=
  let cs := if unicode then characters text else text.toList
  let s := cs.foldl (At.char unicode) ⟨zero, 0, false⟩
  { s.counts with
    words := if s.inWord then s.counts.words + 1 else s.counts.words
    bytes := text.length
    longest := max s.counts.longest s.column }

end Counts

/-- The width of the columns for files: of some the size is known, others are none with a size. -/
def countWidth (sizes : List (Option Nat)) : Nat :=
  let total := (sizes.filterMap id).foldl (· + ·) 0
  max (toString total).length (if sizes.any Option.isNone then 7 else 1)

/-- The number of octets in a page of memory. -/
def pageSize : Nat := 4096

/-- The number of octets that are left of a file, which then need not be read; nothing if they have
to be. -/
def sizeLeft? (descriptor : Nat) : Work (Option Nat) :=
  (Act.look fun pid w =>
    match w.opening? pid descriptor with
    | some (_, o) =>
      match (w.disk.node o.node).body with
      | .file content =>
        if content.length % pageSize == 0 then none else some (content.length - o.offset)
      | _ => none
    | none => none : Act (Option Nat))

/-- The size of what a source is, as far as it has one; nothing if it cannot be found. -/
def sourceSize (path : String) : Work (Option (Option Nat)) := do
  let sizeOf (node : Node) : Option Nat := match node.body with
    | .file content => some content.length
    | .program _ => some programStart.length
    | _ => none
  if path == "-" then
    (Act.look fun pid w => (w.nodeOf? pid 0).map fun id => sizeOf (w.disk.node id) : Act _)
  else
    match ← statusOf true path with
    | .ok (_, node) => return some (sizeOf node)
    | .error _ => return none

/-- Counts lines, words and octets. -/
def wc : Utility := fun i =>
  let table : OptionTable := .of "lwcmL" "" [("lines", 'l'), ("words", 'w'), ("bytes", 'c'),
    ("chars", 'm'), ("max-line-length", 'L')]
  table.run i.args 1 fun a => do
    let chosen := "lwmcL".toList.map fun c =>
      if a.options.isEmpty then "lwc".toList.contains c else a.has c
    let columns := (chosen.filter id).length
    let sizes ← (sources a).mapM sourceSize
    let width := if (sources a).length == 1 && columns == 1 then 1
      else countWidth (sizes.filterMap id)
    let row (c : Counts) : String :=
      let numbers := [c.lines, c.words, c.chars, c.bytes, c.longest]
      " ".intercalate (((numbers.zip chosen).filter (·.2)).map fun n => flushRight width n.1)
    let write (c : Counts) (path : String) : Work Unit :=
      let shown := if path.toList.contains '\n' then Quoting.always path else path
      sayLine (if a.operands.isEmpty then row c else s!"{row c} {shown}")
    let onlyOctets := chosen == [false, false, false, true, false]
    let total ← (sources a).foldlM (fun total path => do
      match ← openInput path with
      | .error e => do
        complain (unreadable path e) 1
        return total
      | .ok descriptor => do
        let size? ← if onlyOctets then sizeLeft? descriptor else pure none
        let counted : Except Errno Counts ← match size? with
          | some size => pure (.ok { Counts.zero with bytes := size })
          | none => do
            let text ← (Act.readAll descriptor : Act _)
            pure (text.map fun t => Counts.ofText i.hasUnicode t)
        closeInput descriptor
        match counted with
        | .ok c => do
          write c path
          return total.plus c
        | .error e => do
          let shown := if a.operands.isEmpty then "standard input" else path
          complain (unreadable shown e) 1
          write .zero path
          return total) Counts.zero
    if 1 < a.operands.length then sayLine s!"{row total} total"

end RecallShell.Machine
