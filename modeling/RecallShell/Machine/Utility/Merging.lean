import RecallShell.Machine.Utility.Order

/-!
# Lines of sorted files

Lines that are in order are compared with their neighbours, or with the lines of another file: runs
of equal lines become one, and the lines or fields that two files have in common are found. A partial
order is made a full one, and lines are brought into no order at all.
-/

namespace RecallShell.Machine

open Text Work

/-! ## Runs of equal lines -/

/-- Elements cut into runs of those that are the same. -/
def runsOf {α : Type} (same : α → α → Bool) : List α → List (List α)
  | [] => []
  | x :: xs =>
    match runsOf same xs with
    | (y :: ys) :: rest => if same x y then (x :: y :: ys) :: rest else [x] :: (y :: ys) :: rest
    | rest => [x] :: rest

/-- The part of a line that counts. -/
def countedPart (fields chars : Nat) (width : Option Nat) (folds : Bool) (line : String) :
    List Char :=
  let cs := (behindFields fields line.toList).drop chars
  let cs := cs.take (width.getD cs.length)
  if folds then cs.map Char.toLower else cs

/-- The number that an option of `uniq` has as its value. -/
def uniqCount (a : Arguments) (letter : Char) (what : String) : Work (Option Nat) := do
  match a.value? letter with
  | none => return none
  | some text =>
    match natural? text with
    | some n => return some n
    | none => die s!"{text}: invalid number of {what}" 1

/-- Writes each run of equal lines once. -/
def uniq : Utility := fun i =>
  let table : OptionTable := .of "cdDiu" "fsw" [("count", 'c'), ("repeated", 'd'), ("unique", 'u'),
    ("ignore-case", 'i'), ("skip-fields", 'f'), ("skip-chars", 's'), ("check-chars", 'w')]
  table.run i.args 1 fun a => do
    if let _ :: _ :: extra :: _ := a.operands then misused s!"extra operand {← quote extra}" 1
    let fields ← uniqCount a 'f' "fields to skip"
    let chars ← uniqCount a 's' "bytes to skip"
    let width ← uniqCount a 'w' "bytes to compare"
    let path := a.operands.headD "-"
    match ← contentOf path with
    | .error e => die (unreadable path e) 1
    | .ok text => do
      let key := countedPart (fields.getD 0) (chars.getD 0) width (a.has 'i')
      let runs := runsOf (fun x y => key x == key y) (linesOf text)
      let kept := runs.filter fun run =>
        (!a.has 'd' || 1 < run.length) && (!a.has 'u' || run.length == 1)
      let shown := if a.has 'D' then (runs.filter fun run => 1 < run.length).flatten
        else kept.map fun run =>
          (if a.has 'c' then s!"{flushRight 7 run.length} " else "") ++ run.headD ""
      let text := String.join (shown.map (· ++ "\n"))
      match a.operands with
      | [_, target] =>
        if let .error e ← writeFile target text then die (unreadable target e) 1
      | _ => say text

/-! ## Two files -/

/-- Goes on with the lines of the two files that are named. -/
def withPair (a : Arguments) (go : List String → List String → Work Unit) : Work Unit := do
  let load (path : String) : Work (List String) := do
    match ← contentOf path with
    | .ok text => return linesOf text
    | .error e => die (unreadable path e) 1
  match a.operands with
  | [] => misused "missing operand" 1
  | [one] => misused s!"missing operand after {← quote one}" 1
  | [one, two] => do go (← load one) (← load two)
  | _ :: _ :: extra :: _ => misused s!"extra operand {← quote extra}" 1

/-- Lines of two files in one order: each with the column that it belongs to. -/
def threeColumns : Nat → List String → List String → List (Nat × String)
  | 0, _, _ => []
  | _, xs, [] => xs.map (1, ·)
  | _, [], ys => ys.map (2, ·)
  | fuel + 1, x :: xs, y :: ys =>
    match compareOctets x.toList y.toList with
    | .lt => (1, x) :: threeColumns fuel xs (y :: ys)
    | .gt => (2, y) :: threeColumns fuel (x :: xs) ys
    | .eq => (3, x) :: threeColumns fuel xs ys

/-- Writes the lines of two sorted files in three columns: those of the first alone, those of the
second alone, and those of both. -/
def comm : Utility := fun i =>
  let table : OptionTable := .of "" "" []
  table.run i.args 1 fun a => withPair a fun xs ys =>
    forEach (threeColumns (xs.length + ys.length) xs ys) fun (column, line) =>
      sayLine (String.ofList (List.replicate (column - 1) '\t') ++ line)

/-- The lines that two files make up which have their first field in common. -/
def sharedLines (xs ys : List String) : List String :=
  let fields (line : String) : List String :=
    (line.splitToList fun c => c == ' ' || c == '\t').filter (!·.isEmpty)
  xs.flatMap fun x =>
    (ys.filter fun y => (fields y).head? == (fields x).head?).map fun y =>
      " ".intercalate (fields x ++ (fields y).tail)

/-- Joins the lines of two sorted files that have their first field in common. -/
def join : Utility := fun i =>
  let table : OptionTable := .of "" "" []
  table.run i.args 1 fun a => withPair a fun xs ys => forEach (sharedLines xs ys) sayLine

/-! ## Partial orders -/

/-- The pairs that words make up. -/
def pairsOf : List String → List (String × String)
  | x :: y :: rest => (x, y) :: pairsOf rest
  | _ => []

/-- Words in an order in which the first of each pair comes before the second, as far as there is
one: each time a word that nothing has to come before. -/
def ordered : Nat → List (String × String) → List String → List String
  | 0, _, _ => []
  | fuel + 1, pairs, words =>
    match words.find? fun w => pairs.all fun p => p.2 != w || p.1 == w with
    | none => []
    | some w => w :: ordered fuel (pairs.filter fun p => p.1 != w) (words.erase w)

/-- Makes a full order of a partial one. -/
def tsort : Utility := fun i =>
  let table : OptionTable := .of "" "" []
  table.run i.args 1 fun a => do
    if let _ :: extra :: _ := a.operands then misused s!"extra operand {← quote extra}" 1
    let path := a.operands.headD "-"
    match ← contentOf path with
    | .error e => die (unreadable path e) 1
    | .ok text => do
      let words := (text.splitToList Char.isWhitespace).filter (!·.isEmpty)
      if words.length % 2 == 1 then
        die s!"{Quoting.ifNeeded path}: input contains an odd number of tokens" 1
      let all := words.eraseDups.mergeSort fun x y => compareOctets x.toList y.toList != .gt
      let shown := ordered all.length (pairsOf words) all
      forEach shown sayLine
      if shown.length < all.length then die s!"{Quoting.ifNeeded path}: input contains a loop:" 1

/-! ## No order -/

/-- Elements in an order that follows from a seed. -/
def mixed {α : Type} [Inhabited α] : Nat → Nat → List α → List α
  | 0, _, xs => xs
  | fuel + 1, seed, xs =>
    if xs.isEmpty then []
    else
      let seed := (seed * 6364136223846793005 + 1442695040888963407) % 2 ^ 64
      let n := seed / 2 ^ 33 % xs.length
      xs.getD n default :: mixed fuel seed (xs.eraseIdx n)

/-- Writes lines in no order, so many at most. -/
def shuf : Utility := fun i =>
  let table : OptionTable := .of "" "n" [("head-count", 'n')]
  table.run i.args 1 fun a => do
    let text := (a.value? 'n').getD (toString Act.endless)
    let count ← match natural? text with
      | some n => pure n
      | none => die s!"invalid line count: {← quote text}" 1
    if let _ :: extra :: _ := a.operands then misused s!"extra operand {← quote extra}" 1
    if 0 < count then
      let path := a.operands.headD "-"
      match ← contentOf path with
      | .error e => die (unreadable path e) 1
      | .ok text => do
        let lines := linesOf text
        forEach ((mixed lines.length (← (Act.clock : Act _)) lines).take count) sayLine

end RecallShell.Machine
