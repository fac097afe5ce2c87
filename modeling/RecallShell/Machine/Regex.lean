import RecallShell.Machine.Pattern

/-!
# Regular expressions

An expression is a list of alternatives, each a row of items. Matching leads from a place in a text to
the places behind what an item stands for, those with the least left of the text first. Of all matches
that begin at a place the longest counts. In the basic form the characters that group, repeat and part
alternatives have their meaning behind a backslash, in the extended form without one.
-/

namespace RecallShell.Machine

/-- A part of a regular expression. -/
inductive Item where
  /-- One character that a mark stands for. -/
  | one (mark : Mark)
  /-- Where the text begins. -/
  | textStart
  /-- Where the text ends. -/
  | textEnd
  /-- Alternatives, the part matched being remembered under a number. -/
  | group (number : Nat) (rows : List (List Item))
  /-- An item, or nothing. -/
  | optional (item : Item)
  /-- An item any number of times. -/
  | many (item : Item)

/-- A regular expression. -/
structure Regex where
  /-- The alternatives. -/
  rows : List (List Item)
  /-- The number of groups. -/
  groups : Nat
  /-- No less than the number of its parts. -/
  size : Nat
  deriving Inhabited

namespace Regex

/-! ## Matching -/

/-- Where matching stands in a text. -/
structure Place where
  /-- The characters that follow. -/
  rest : List Char
  /-- What the groups have matched, the newest first. -/
  groups : List (Nat × List Char) := []

/-- Places in order, the furthest one first, of those that are as far the first one. -/
def inOrder (places : List Place) : List Place :=
  let sorted := places.mergeSort fun p q => p.rest.length ≤ q.rest.length
  (sorted.foldl (fun (kept : List Place) p =>
    if kept.head?.any fun q => q.rest.length == p.rest.length then kept else p :: kept) []).reverse

/-- The places that a part leads to when it is taken again and again, each time with something
matched. -/
def again (part : Place → List Place) : Nat → List Place → List Place
  | 0, places => places
  | turns + 1, places =>
    let next := inOrder <| places.flatMap fun p =>
      (part p).filter fun q => q.rest.length < p.rest.length
    if next.isEmpty then places else places ++ again part turns next

/-- The places that items lead to in a text of some length. -/
def run (length : Nat) : Nat → List Item → Place → List Place
  | 0, _, _ => []
  | _, [], p => [p]
  | fuel + 1, item :: items, p =>
    let after : List Place := match item with
      | .one mark =>
        match p.rest with
        | c :: rest => if Pattern.admits mark c then [{ p with rest }] else []
        | [] => []
      | .textStart => if p.rest.length == length then [p] else []
      | .textEnd => if p.rest.isEmpty then [p] else []
      | .group number rows =>
        (rows.flatMap fun row => run length fuel row p).map fun q =>
          { q with groups := (number, p.rest.take (p.rest.length - q.rest.length)) :: q.groups }
      | .optional item => run length fuel [item] p ++ [p]
      | .many item => again (run length fuel [item]) (p.rest.length + 1) [p]
    (inOrder after).flatMap (run length fuel items)

/-- A match in a text. -/
structure Found where
  /-- The number of characters before it. -/
  start : Nat
  /-- Its characters. -/
  chars : List Char
  /-- What the groups have matched. -/
  groups : List (Nat × List Char)

/-- The number of characters before the end of a match. -/
def Found.stop (f : Found) : Nat := f.start + f.chars.length

/-- What a group has matched; the group zero is the whole match. -/
def Found.group (f : Found) (number : Nat) : List Char :=
  if number == 0 then f.chars else (f.groups.lookup number).getD []

/-- The longest match that begins behind so many characters of a text. -/
def at? (r : Regex) (cs : List Char) (start : Nat) : Option Found :=
  let rest := cs.drop start
  (inOrder (r.rows.flatMap fun row => run cs.length (r.size + 1) row { rest })).head?.map fun q =>
    ⟨start, rest.take (rest.length - q.rest.length), q.groups⟩

/-- The first match in a text. -/
def first? (r : Regex) (cs : List Char) : Option Found :=
  (List.range (cs.length + 1)).findSome? (r.at? cs)

/-- All matches in a text, none of which begins inside another one. An empty match right behind another
one does not count. -/
def all (r : Regex) (cs : List Char) : List Found :=
  ((List.range (cs.length + 1)).foldl (fun (found : List Found) start =>
    match found, r.at? cs start with
    | last :: _, some f =>
      if start < last.stop || (f.chars.isEmpty && start == last.stop) then found else f :: found
    | [], some f => [f]
    | _, none => found) []).reverse

/-! ## Reading -/

/-- Why an expression cannot be read. -/
inductive Fault where
  /-- Nothing stands behind an opening bracket. -/
  | badPattern
  /-- Brackets are not closed. -/
  | openBracket
  /-- A group is not closed. -/
  | openGroup
  /-- A group is closed that has not been opened. -/
  | closedGroup
  /-- There is nothing to repeat. -/
  | badRepetition
  /-- A backslash comes last. -/
  | lastBackslash
  deriving DecidableEq, Repr

/-- What is said of an expression that cannot be read. -/
def Fault.text : Fault → String
  | .badPattern => "Invalid regular expression"
  | .openBracket => "Unmatched [, [^, [:, [., or [="
  | .openGroup => "Unmatched ( or \\("
  | .closedGroup => "Unmatched ) or \\)"
  | .badRepetition => "Invalid preceding regular expression"
  | .lastBackslash => "Trailing backslash"

/-- An expression that is being read. -/
structure Reading where
  /-- The characters still to be read. -/
  rest : List Char
  /-- The number of groups that have been opened. -/
  opened : Nat := 0

/-- A reader of expressions. -/
abbrev Reader := StateT Reading (Except Fault)

/-- Whether a character has a meaning beside the backslash in the extended form, and behind it in the
basic form. -/
def isGrouping (c : Char) : Bool := ['(', ')', '|', '+', '?'].contains c

/-- Reads a character, and whether it has a meaning of its own. -/
def sign? (extended : Bool) : Reader (Option (Char × Bool)) := do
  let r ← get
  match r.rest with
  | [] => return none
  | ['\\'] => throw .lastBackslash
  | '\\' :: c :: rest => do
    set { r with rest }
    return some (c, !extended && isGrouping c)
  | c :: rest => do
    set { r with rest }
    return some (c, ['.', '[', '*', '^', '$'].contains c || (extended && isGrouping c))

/-- Reads what stands in brackets. -/
def brackets : Reader Mark := do
  let r ← get
  if r.rest.isEmpty then throw .badPattern
  let (within, inside) := match r.rest with
    | '^' :: inside => (false, inside)
    | inside => (true, inside)
  match Pattern.bracketRanges (inside.length + 1) true (inside.map fun c => (c, false)) with
  | none => throw .openBracket
  | some (ranges, rest) => do
    set { r with rest := rest.map Prod.fst }
    return .oneOf within ranges

/-- Reads alternatives, the items of the first one that have been read coming last first: up to the end,
or behind the sign that closes a group. -/
def alternatives (extended inGroup : Bool) : Nat → List Item → Reader (List (List Item))
  | 0, _ => return []
  | fuel + 1, row => do
    let push (item : Item) := alternatives extended inGroup fuel (item :: row)
    let repeated (c : Char) (what : Item → List Item) : Reader (List (List Item)) :=
      match row with
      | item :: row => alternatives extended inGroup fuel (what item ++ row)
      | [] => if extended then throw .badRepetition else push (.one (.char c))
    match ← sign? extended with
    | none => if inGroup then throw .openGroup else return [row.reverse]
    | some (c, false) => push (.one (.char c))
    | some ('.', _) => push (.one .anyOne)
    | some ('[', _) => push (.one (← brackets))
    | some ('^', _) => push (if extended || row.isEmpty then .textStart else .one (.char '^'))
    | some ('$', _) =>
      push (if extended || (← get).rest.isEmpty then .textEnd else .one (.char '$'))
    | some ('*', _) => repeated '*' fun item => [.many item]
    | some ('+', _) => repeated '+' fun item => [.many item, item]
    | some ('?', _) => repeated '?' fun item => [.optional item]
    | some ('|', _) => return row.reverse :: (← alternatives extended inGroup fuel [])
    | some ('(', _) => do
      let number := (← get).opened + 1
      modify fun r => { r with opened := number }
      push (.group number (← alternatives extended true fuel []))
    | some (_, _) => if inGroup then return [row.reverse] else throw .closedGroup

/-- The expression that characters make up, or what is wrong with them. -/
def read (extended : Bool) (cs : List Char) : Except Fault Regex :=
  ((alternatives extended false (cs.length + 1) []).run { rest := cs }).map fun (rows, r) =>
    ⟨rows, r.opened, 2 * cs.length + 1⟩

end Regex

end RecallShell.Machine
