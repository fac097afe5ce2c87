import RecallShell.Machine.Calendar
import RecallShell.Machine.Pattern
import RecallShell.Machine.Utility.Counting
import RecallShell.Machine.Utility.Facts
import RecallShell.Machine.Utility.Order
import RecallShell.Text.Characters

/-!
# Listing files

The names in directories are listed in some order: one to a line, in columns, or each with what is
known about its file. Files among the operands come first, then each directory with what lies in it.
-/

namespace RecallShell.Machine

open Text Work

/-! ## Names -/

/-- How names are written. -/
inductive NameStyle where
  /-- As they are. -/
  | literal
  /-- In quotes that a shell needs. -/
  | shell
  /-- Between double quotes with escapes. -/
  | c
  /-- With escapes. -/
  | escape
  /-- With question marks for what shows nothing. -/
  | hidden
  deriving DecidableEq, Repr

namespace NameStyle

/-- A name in a style. -/
def write (style : NameStyle) (name : String) : String :=
  let cs := characters name
  let escaped (special : List Char) (c : Char) : List Char :=
    if special.contains c then ['\\', c] else if isPrintable c then [c] else escapedBytes c
  match style with
  | .literal => name
  | .shell =>
    if Quoting.isSpecial cs then "'" ++ "'\\''".intercalate (name.splitOn "'") ++ "'" else name
  | .c => "\"" ++ ofCharacters (cs.flatMap (escaped ['"', '\\'])) ++ "\""
  | .escape => ofCharacters (cs.flatMap (escaped [' ', '\\']))
  | .hidden => ofCharacters (cs.map fun c => if isPrintable c then c else '?')

end NameStyle

/-! ## Versions -/

/-- How a character, or the end of a name, stands in the order of versions. -/
def versionRank : Option Char → Int
  | none => -1
  | some c =>
    if c.isDigit then 0 else if c.isAlpha then c.toNat else if c == '~' then -2 else c.toNat + 256

/-- Compares names as versions: runs of digits by the numbers that they write, everything else by
character. -/
def compareVersions : Nat → List Char → List Char → Ordering
  | 0, _, _ => .eq
  | fuel + 1, as, bs =>
    let (ds, es) := (as.takeWhile Char.isDigit, bs.takeWhile Char.isDigit)
    if as.isEmpty && bs.isEmpty then .eq
    else if ds.isEmpty || es.isEmpty then
      (compare (versionRank as.head?) (versionRank bs.head?)).then
        (compareVersions fuel (as.drop 1) (bs.drop 1))
    else
      (compare (digitsValue 10 ds) (digitsValue 10 es)).then
        (compareVersions fuel (as.drop ds.length) (bs.drop es.length))

/-! ## Plans -/

/-- How names are arranged. -/
inductive Arrangement where
  /-- One to a line. -/
  | single
  /-- One to a line, with facts. -/
  | long
  /-- In columns, downward. -/
  | down
  /-- In columns, across. -/
  | across
  /-- One behind the other with commas. -/
  | commas
  deriving DecidableEq, Repr

/-- What names are sorted by. -/
inductive SortedBy where
  /-- The names. -/
  | name
  /-- The times, the newest first. -/
  | time
  /-- The sizes, the greatest first. -/
  | size
  /-- The endings of the names. -/
  | ending
  /-- The names as versions. -/
  | version
  deriving DecidableEq, Repr

/-- How files are listed. -/
structure ListPlan where
  /-- The arrangement. -/
  arrangement : Arrangement := .single
  /-- How names are written. -/
  names : NameStyle := .literal
  /-- How much a sign behind a name tells. -/
  signs : Nat := 0
  /-- What names are sorted by. -/
  sortedBy : SortedBy := .name
  /-- The patterns of names that are passed over. -/
  ignored : List Pattern := []
  /-- The width of a line. -/
  width : Nat := 80
  /-- The end of a line. -/
  ending : String := "\n"
  /-- The options as they were given. -/
  given : Arguments

/-- The options for listing; those with a name alone have letters that nobody types. -/
def listTable : OptionTable :=
  .of "abBCdFlmpqQrRStvxX1ⓩ" "Iwⓠ" [("all", 'a'), ("escape", 'b'), ("ignore-backups", 'B'),
    ("directory", 'd'), ("classify", 'F'), ("ignore", 'I'), ("hide-control-chars", 'q'),
    ("quote-name", 'Q'), ("quoting-style", 'ⓠ'), ("reverse", 'r'), ("recursive", 'R'), ("width", 'w'),
    ("zero", 'ⓩ')]

/-- What options change in a plan, in their order. -/
def ListPlan.with_ (p : ListPlan) : Char × String → Work ListPlan
  | ('l', _) => return { p with arrangement := .long }
  | ('C', _) => return { p with arrangement := .down }
  | ('x', _) => return { p with arrangement := .across }
  | ('m', _) => return { p with arrangement := .commas }
  | ('ⓩ', _) => return { p with arrangement := .single, ending := "\x00" }
  | ('b', _) => return { p with names := .escape }
  | ('Q', _) => return { p with names := .c }
  | ('q', _) => return { p with names := .hidden }
  | ('ⓠ', "literal") => return { p with names := .literal }
  | ('ⓠ', "shell") => return { p with names := .shell }
  | ('ⓠ', value) => do
    let option ← quote "--quoting-style"
    misused s!"invalid argument {← quote value} for {option}" 1
  | ('B', _) => return { p with ignored := patternOf "*~" :: patternOf ".*~" :: p.ignored }
  | ('I', value) => return { p with ignored := patternOf value :: p.ignored }
  | ('F', _) => return { p with signs := 3 }
  | ('p', _) => return { p with signs := 1 }
  | ('t', _) => return { p with sortedBy := .time }
  | ('S', _) => return { p with sortedBy := .size }
  | ('v', _) => return { p with sortedBy := .version }
  | ('X', _) => return { p with sortedBy := .ending }
  | ('w', value) =>
    match natural? value with
    | some width => return { p with width }
    | none => do die s!"invalid line width: {← quote value}" 2
  | _ => return p
where
  /-- The pattern that a text writes. -/
  patternOf (text : String) : Pattern := Pattern.of (text.toList.map fun c => (c, false))

/-! ## Entries -/

/-- A file that is listed. -/
structure Listed where
  /-- The name that it is listed under. -/
  name : String
  /-- The path that leads to it. -/
  path : String
  /-- What it is. -/
  node : Node
  deriving Inhabited

namespace Listed

/-- The sign that tells the kind of a node. -/
def signOf (signs : Nat) (n : Node) : String :=
  match n.body with
  | .directory .. => if 0 < signs then "/" else ""
  | .link _ => if 1 < signs then "@" else ""
  | .pipe _ | .outlet _ => if 1 < signs then "|" else ""
  | .file _ | .damaged .. | .program _ => if 2 < signs && n.mode &&& 0o111 != 0 then "*" else ""
  | .device _ => ""

/-- The ending of a name from its last dot on. -/
def endingOf (name : String) : List Char :=
  let behind := name.toList.reverse.takeWhile (· != '.')
  if behind.length == name.length then [] else '.' :: behind.reverse

/-- How two files compare. -/
def compare_ (by_ : SortedBy) (a b : Listed) : Ordering :=
  let (as, bs) := (a.name.toList, b.name.toList)
  let stem (e : Listed) : List Char := e.name.toList.take (e.name.length - (endingOf e.name).length)
  let order : Ordering := match by_ with
    | .name => .eq
    | .time => compare b.node.changed a.node.changed
    | .size => compare (sizeOf_ b.node) (sizeOf_ a.node)
    | .ending => compareOctets (endingOf a.name) (endingOf b.name)
    | .version => compareVersions (as.length + bs.length + 1) (stem a) (stem b)
  order.then (compareOctets as bs)

end Listed

/-- The number of columns that a text takes. -/
def widthOf (text : String) : Nat := (characters text).foldl (fun sum c => sum + columnsOf c) 0

/-- Files in the order of a plan. -/
def ListPlan.sort (p : ListPlan) (entries : List Listed) : List Listed :=
  entries.mergeSort fun a b =>
    if p.given.has 'r' then a.compare_ p.sortedBy b != .lt else a.compare_ p.sortedBy b != .gt

/-! ## Writing -/

/-- The distance of the stops of tabs. -/
def tabWidth : Nat := 8

/-- Blanks and tabs from one column to another one. -/
def indent : Nat → Nat → Nat → String
  | 0, _, _ => ""
  | fuel + 1, start, stop =>
    if stop ≤ start then ""
    else if (start + 1) / tabWidth < stop / tabWidth then
      "\t" ++ indent fuel (start + tabWidth - start % tabWidth) stop
    else " " ++ indent fuel (start + 1) stop

/-- The widths of so many columns that hold texts of some widths. -/
def columnWidths (down : Bool) (columns : Nat) (widths : List Nat) : List Nat :=
  let rows := unitsOf columns widths.length
  let placed := widths.zipIdx.map fun w =>
    let column := if down then w.2 / rows else w.2 % columns
    (column, w.1 + if column + 1 == columns then 0 else 2)
  (List.range columns).map fun column =>
    placed.foldl (fun most w => if w.1 == column then max most w.2 else most) 3

/-- The widths of as many columns as a line has room for. -/
def fittingColumns (down : Bool) (line : Nat) (widths : List Nat) : Nat → List Nat
  | 0 => [line]
  | 1 => columnWidths down 1 widths
  | columns + 1 =>
    let found := columnWidths down (columns + 1) widths
    if found.foldl (· + ·) 0 < line then found else fittingColumns down line widths columns

/-- A row of texts, each in its column. -/
def writeRow : Nat → List Nat → List (String × Nat) → String
  | start, column :: columns, (text, width) :: next :: rest =>
    let stop := start + column
    text ++ indent (stop + 1) (start + width) stop ++ writeRow stop columns (next :: rest)
  | _, _, texts => String.join (texts.map (·.1))

/-- The rows of texts in columns. -/
def rowsOf {α : Type} (down : Bool) (columns : Nat) (texts : List α) : List (List α) :=
  let rows := unitsOf columns texts.length
  (List.range rows).map fun row =>
    (List.range columns).filterMap fun column =>
      texts[if down then column * rows + row else row * columns + column]?

/-- Texts one behind the other with commas, as far as a line has room for them. -/
def writeJoined (line : Nat) (ending : String) : Nat → List (String × Nat) → String
  | _, [] => ""
  | _, [(text, _)] => text ++ ending
  | start, (text, width) :: (next, nextWidth) :: rest =>
    let at_ := start + width
    let fits := at_ + nextWidth + 2 < line
    text ++ "," ++ (if fits then " " else ending)
      ++ writeJoined line ending (if fits then at_ + 2 else 0) ((next, nextWidth) :: rest)

/-- The facts about a file that go in columns, each with whether it is flush right. -/
def Listed.facts (now : Nat) (e : Listed) : List (Bool × String) :=
  [(false, modeLetters e.node), (true, toString e.node.links), (false, "root"), (false, "root"),
    (true, toString (sizeOf_ e.node)), (true, shownMoment now e.node.changed)]

/-- Facts in columns as wide as the widest of each. -/
def alignFacts (rows : List (List (Bool × String))) (facts : List (Bool × String)) : String :=
  String.join <| facts.zipIdx.map fun ((right, text), column) =>
    let width := (rows.map fun row => (row.getD column default).2.length).foldl max 0
    let gap := String.ofList (List.replicate (width - text.length) ' ')
    (if right then gap ++ text else text ++ gap) ++ " "

/-- Writes files as a plan arranges them. -/
def sayListed (p : ListPlan) (entries : List Listed) : Work Unit := do
  let texts := entries.map fun e =>
    let shown := p.names.write e.name ++ Listed.signOf p.signs e.node
    (shown, widthOf shown)
  let columns (down : Bool) : Work Unit := do
    let most := max 1 (min texts.length (unitsOf 3 p.width))
    let found := fittingColumns down p.width (texts.map (·.2)) most
    forEach (rowsOf down found.length texts) fun row => say (writeRow 0 found row ++ p.ending)
  if !entries.isEmpty then
    match p.arrangement with
    | .single => forEach texts fun text => say (text.1 ++ p.ending)
    | .long => do
      let now ← (Act.clock : Act Nat)
      let rows := entries.map (·.facts now)
      forEach (rows.zip texts) fun (facts, text) => say (alignFacts rows facts ++ text.1 ++ p.ending)
    | .down => columns true
    | .across => columns false
    | .commas => say (writeJoined p.width p.ending 0 texts)

/-! ## Directories -/

/-- Whether a name is passed over. -/
def ListPlan.skips (p : ListPlan) (name : String) : Bool :=
  (name.startsWith "." && !p.given.has 'a') || p.ignored.any fun pattern =>
    pattern.covers (characters name) &&
      (!name.startsWith "." || pattern.head? == some (.char '.'))

/-- Lists a directory, and those that lie in it if asked to. -/
def listDirectory (p : ListPlan) (headed : Bool) : Nat → Bool → String → Work Unit
  | 0, _, _ => pure ()
  | depth + 1, first, path => do
    let refuse (e : Errno) : Work Unit :=
      complain (because s!"cannot open directory {Quoting.always path}" e) (if first then 2 else 1)
    match ← statusOf true path with
    | .error e => refuse e
    | .ok (id, n) =>
      if !n.mayRead then refuse .accessDenied
      else do
        if headed then say ((if first then "" else p.ending) ++ p.names.write path ++ ":" ++ p.ending)
        let names := "." :: ".." :: ((← disk).namesIn id).map octets
        let entries ← (names.filter fun name => !p.skips name).filterMapM fun name => do
          let inner := if path == "." then s!"./{name}" else within path name
          return (← statusOf false inner).toOption.map fun found => ⟨name, inner, found.2⟩
        let entries := p.sort entries
        if p.arrangement == .long then
          let room := entries.foldl (fun sum e => sum + roomOf e.node) 0
          say s!"total {unitsOf 1024 room}{p.ending}"
        sayListed p entries
        if p.given.has 'R' then
          forEach entries fun e => do
            if e.name != "." && e.name != ".." && e.node.isDirectory then
              listDirectory p headed depth false e.path

/-- Lists files. -/
def ls : Utility := fun i =>
  listTable.run i.args 2 fun a => do
    let p ← a.options.foldlM ListPlan.with_ { given := a }
    let operands := if a.operands.isEmpty then ["."] else a.operands
    -- a link among the operands counts as the directory that it leads to unless facts about it are told
    let telling := a.has 'd' || p.signs == 3 || p.arrangement == .long
    let found ← operands.filterMapM fun path => do
      let through ← statusOf true path
      let leads := !telling && through.toOption.any fun found => found.2.isDirectory
      match ← (if leads then pure through else statusOf false path) with
      | .ok (_, n) => return some ⟨path, path, n⟩
      | .error e => do
        complain (because s!"cannot access {Quoting.always path}" e) 2
        return none
    let isInside (e : Listed) : Bool := e.node.isDirectory && !a.has 'd'
    let files := p.sort (found.filter fun e => !isInside e)
    sayListed p files
    let headed := a.has 'R' || !files.isEmpty || operands.length != 1
    let rec listAll (first : Bool) : List Listed → Work Unit
      | [] => pure ()
      | e :: rest => do
        listDirectory p headed 1000 first e.path
        listAll false rest
    listAll files.isEmpty (p.sort (found.filter isInside))

end RecallShell.Machine
