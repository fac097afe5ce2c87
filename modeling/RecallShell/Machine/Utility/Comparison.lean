import RecallShell.Machine.Utility.Source

/-!
# Comparing files

`cmp` says where two files differ first. `diff` says which lines of one file have to go and which lines
of the other one have to come, so that as many lines as possible stay.
-/

namespace RecallShell.Machine

open Text Work

/-- Ends a utility that was not called as it must be; its name goes before the hint as well. -/
def misusedHere {α : Type} (complaint : String) (status : Nat) : Work α := do
  complain complaint status
  complain (helpHint (← Work.name)) status
  exit status

/-- Goes on with the two operands that there are to be, or says what is wrong with them. -/
def withBothOperands (i : Invocation) (go : String → String → Work Unit) : Work Unit :=
  match (OptionTable.of "" "" []).read i.args with
  | .error complaint => misusedHere complaint 2
  | .ok a =>
    match a.operands with
    | [one, other] => go one other
    | _ :: _ :: extra :: _ => misusedHere s!"extra operand '{extra}'" 2
    | _ => misusedHere s!"missing operand after '{i.args.getLastD i.name}'" 2

/-- What both files hold, unless one of them cannot be read. -/
def bothContents (one other : String) : Work (String × String) := do
  match ← contentOf one, ← contentOf other with
  | .ok first, .ok second => return (first, second)
  | first, second => do
    let tell (path : String) : Except Errno String → Work Unit
      | .error e => complain (because path e) 2
      | .ok _ => pure ()
    tell one first
    tell other second
    exit 2

/-! ## Octet by octet -/

/-- How many octets two texts begin with alike. -/
def alike : List Char → List Char → Nat
  | c :: cs, d :: ds => if c == d then alike cs ds + 1 else 0
  | _, _ => 0

/-- What is said of a file that ends early, behind the part that it shares with the other one. -/
def earlyEnd (name : String) (shared : List Char) : String :=
  if shared.isEmpty then s!"EOF on {name} which is empty"
  else
    let lines := shared.count '\n'
    let place := if shared.getLast? == some '\n' then s!"line {lines}" else s!"in line {lines + 1}"
    s!"EOF on {name} after byte {shared.length}, {place}"

/-- Compares two files octet by octet. -/
def cmp : Utility := fun i =>
  withBothOperands i fun one other => do
    let (first, second) ← bothContents one other
    let (first, second) := (first.toList, second.toList)
    let shared := first.take (alike first second)
    if first != second then
      if shared.length == first.length || shared.length == second.length then
        complain (earlyEnd (if shared.length == first.length then one else other) shared) 1
      else
        let word := if i.hasLanguage "LC_MESSAGES" then "byte" else "char"
        let line := shared.count '\n' + 1
        say s!"{one} {other} differ: {word} {shared.length + 1}, line {line}\n"
        fail 1

/-! ## Line by line -/

/-- A place where lines of one text are replaced by lines of another. -/
structure Change where
  /-- The lines before it in the one text. -/
  left : Nat
  /-- The lines before it in the other text. -/
  right : Nat
  /-- The lines of the one text that go. -/
  removed : List String
  /-- The lines of the other text that come. -/
  added : List String
  deriving DecidableEq, Repr, Inhabited

/-- How many lines can stay of a text that begins with some line, for each end of the other text; what
can stay behind that line is known. -/
def keepRow (x : String) : List String → List Nat → List Nat
  | y :: ys, below :: further =>
    let row := keepRow x ys further
    (if x == y then further.headD 0 + 1 else max below (row.headD 0)) :: row
  | _, _ => [0]

/-- How many lines can stay, for each end of the one text and each end of the other. -/
def keepRows (ys : List String) : List String → List (List Nat)
  | [] => [List.replicate (ys.length + 1) 0]
  | x :: xs =>
    let rows := keepRows ys xs
    keepRow x ys (rows.headD []) :: rows

/-- A change before which one more line of either text goes or comes. -/
def Change.before (x? y? : Option String) (left right : Nat) : List Change → List Change
  | c :: cs =>
    if c.left == left + x?.toList.length && c.right == right + y?.toList.length then
      ⟨left, right, x?.toList ++ c.removed, y?.toList ++ c.added⟩ :: cs
    else ⟨left, right, x?.toList, y?.toList⟩ :: c :: cs
  | [] => [⟨left, right, x?.toList, y?.toList⟩]

/-- The changes that lead from lines of one text to lines of another, behind so many of either. -/
def changesFrom : Nat → Nat → Nat → List (List Nat) → List String → List String → List Change
  | 0, _, _, _, _, _ | _, _, _, _, [], [] => []
  | fuel + 1, left, right, rows, x :: xs, [] =>
    Change.before (some x) none left right (changesFrom fuel (left + 1) right rows.tail xs [])
  | fuel + 1, left, right, rows, [], y :: ys =>
    Change.before none (some y) left right (changesFrom fuel left (right + 1) rows [] ys)
  | fuel + 1, left, right, rows, x :: xs, y :: ys =>
    let narrower := rows.map List.tail
    if x == y then changesFrom fuel (left + 1) (right + 1) narrower.tail xs ys
    else
      let without := ((rows.tail.headD []).headD 0, (narrower.headD []).headD 0)
      if without.2 ≤ without.1 then
        Change.before (some x) none left right (changesFrom fuel (left + 1) right rows.tail xs (y :: ys))
      else
        Change.before none (some y) left right (changesFrom fuel left (right + 1) narrower (x :: xs) ys)

/-- The changes that lead from one text to another. -/
def changesOf (xs ys : List String) : List Change :=
  changesFrom (xs.length + ys.length) 0 0 (keepRows ys xs) xs ys

/-- The numbers of the first and the last of some lines, or of the line before them if there are
none. -/
def lineRange (start count : Nat) : String :=
  if count == 0 then toString start
  else if count == 1 then toString (start + 1)
  else s!"{start + 1},{start + count}"

/-- A line with a sign before it, and with a note if it has no end. -/
def signedLine (sign line : String) : String :=
  if line.endsWith "\n" then s!"{sign} {line}" else s!"{sign} {line}\n\\ No newline at end of file\n"

/-- A change as the lines that go and those that come. -/
def Change.text (c : Change) : String :=
  let letter := if c.added.isEmpty then "d" else if c.removed.isEmpty then "a" else "c"
  let between := if c.removed.isEmpty || c.added.isEmpty then "" else "---\n"
  s!"{lineRange c.left c.removed.length}{letter}{lineRange c.right c.added.length}\n" ++
    String.join (c.removed.map (signedLine "<")) ++ between ++
    String.join (c.added.map (signedLine ">"))

/-- Whether the beginning of a text shows that it is none. -/
def isBinary (text : String) : Bool := (text.toList.take 4096).contains '\x00'

/-- Compares two files line by line. -/
def diff : Utility := fun i =>
  withBothOperands i fun one other => do
    let (first, second) ← bothContents one other
    if first != second then
      fail 1
      if isBinary first || isBinary second then sayLine s!"Binary files {one} and {other} differ"
      else forEach (changesOf (linesWithEnds first) (linesWithEnds second)) fun c => say c.text

end RecallShell.Machine
