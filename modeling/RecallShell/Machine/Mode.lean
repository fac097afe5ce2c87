/-!
# Modes

A mode says in twelve bits who may read, write and run a file. A change of it is written as a number
or as clauses that name users, an operation and permissions.
-/

namespace RecallShell.Machine

namespace Mode

/-- All bits of a mode. -/
def all : Nat := 0o7777

/-- The bits that a mode lacks. -/
def complement (mode : Nat) : Nat := all - (mode &&& all)

/-- The bits of one mode that are not in another one. -/
def without (mode other : Nat) : Nat := mode &&& complement other

/-- The bits for reading, for writing and for running. -/
def bitsOf : Char → Nat
  | 'r' => 0o444
  | 'w' => 0o222
  | 'x' => 0o111
  | 's' => 0o6000
  | 't' => 0o1000
  | _ => 0

/-- The bits that belong to some users. -/
def usersOf : Char → Nat
  | 'u' => 0o4700
  | 'g' => 0o2070
  | 'o' => 0o1007
  | 'a' => all
  | _ => 0

/-- Which bits an operation is about. -/
inductive Source where
  /-- Given bits. -/
  | given (bits : Nat)
  /-- Given bits, and those for running if anyone may run the file already or it is a directory. -/
  | runningIfAny (bits : Nat)
  /-- What some users may do. -/
  | copied (users : Nat)
  deriving DecidableEq, Repr

/-- One operation on a mode. -/
structure Change where
  /-- The sign: added, removed or set. -/
  sign : Char
  /-- The bits of the users that are named; zero if none are. -/
  users : Nat
  /-- The bits that are mentioned. -/
  mentioned : Nat
  /-- The bits that it is about. -/
  source : Source
  deriving DecidableEq, Repr

/-- What is behind a sign: the bits, and what follows. -/
def readSource (cs : List Char) : Source × List Char :=
  match cs with
  | 'u' :: rest => (.copied 0o700, rest)
  | 'g' :: rest => (.copied 0o070, rest)
  | 'o' :: rest => (.copied 0o007, rest)
  | cs =>
    let letters := cs.takeWhile fun c => "rwxXst".toList.contains c
    let bits := letters.foldl (fun b c => b ||| bitsOf c) 0
    (if letters.contains 'X' then .runningIfAny bits else .given bits, cs.drop letters.length)

/-- Reads octal digits. -/
def octal? (cs : List Char) : Option Nat :=
  let n := cs.foldl (fun n c => n * 8 + (c.toNat - 48)) 0
  if cs.isEmpty || !cs.all (fun c => '0' ≤ c && c ≤ '7') || all < n then none else some n

/-- Reads operations of one clause. -/
def readChanges (users : Nat) : Nat → List Char → Option (List Change)
  | 0, _ => none
  | _, [] => some []
  | fuel + 1, sign :: cs =>
    if sign != '+' && sign != '-' && sign != '=' then none
    else if cs.head?.any Char.isDigit then
      match octal? cs with
      | some n => if users == 0 then some [⟨sign, all, all, .given n⟩] else none
      | none => none
    else
      let (source, rest) := readSource cs
      let bits := match source with
        | .given bits | .runningIfAny bits | .copied bits => bits
      let mentioned := if users == 0 then bits else users &&& bits
      (readChanges users fuel rest).map fun changes => ⟨sign, users, mentioned, source⟩ :: changes

/-- Reads a clause. -/
def readClause (cs : List Char) : Option (List Change) :=
  let who := cs.takeWhile fun c => "ugoa".toList.contains c
  let rest := cs.drop who.length
  if rest.isEmpty then none
  else readChanges (who.foldl (fun b c => b ||| usersOf c) 0) (rest.length + 1) rest

/-- Reads a change of modes. -/
def read? (text : String) : Option (List Change) :=
  let cs := text.toList
  if cs.head?.any Char.isDigit then
    (octal? cs).map fun n =>
      [⟨'=', all, if cs.length < 5 then (n &&& 0o7000) ||| 0o777 else all, .given n⟩]
  else ((cs.splitOn ',').mapM readClause).map List.flatten

/-- What a change makes of a mode. -/
def Change.apply (c : Change) (directory : Bool) (mask mode : Nat) : Nat :=
  let kept := if directory then without 0o6000 c.mentioned else 0
  let bits := match c.source with
    | .given bits => bits
    | .runningIfAny bits =>
      if directory || mode &&& 0o111 != 0 then bits ||| 0o111 else bits
    | .copied users =>
      let own := mode &&& users
      ['r', 'w', 'x'].foldl (fun b d => if own &&& bitsOf d != 0 then b ||| bitsOf d else b) 0
  let bits := without (bits &&& (if c.users == 0 then complement mask else c.users)) kept
  match c.sign with
  | '+' => mode ||| bits
  | '-' => without mode bits
  | _ => (mode &&& ((if c.users == 0 then 0 else complement c.users) ||| kept)) ||| bits

/-- What changes make of a mode. -/
def adjust (changes : List Change) (directory : Bool) (mask mode : Nat) : Nat :=
  changes.foldl (fun mode c => c.apply directory mask mode) (mode &&& all)

/-- The nine letters for what users may do. -/
def letters (mode : Nat) : String :=
  let has (bit : Nat) : Bool := mode &&& bit != 0
  let triple (shift special : Nat) (letter : Char) : List Char :=
    let runs := has (0o100 >>> shift)
    let last := if has special then (if runs then letter else letter.toUpper)
      else if runs then 'x' else '-'
    [if has (0o400 >>> shift) then 'r' else '-', if has (0o200 >>> shift) then 'w' else '-', last]
  String.ofList (triple 0 0o4000 's' ++ triple 3 0o2000 's' ++ triple 6 0o1000 't')

end Mode

end RecallShell.Machine
