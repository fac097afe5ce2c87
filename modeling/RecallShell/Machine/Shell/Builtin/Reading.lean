import RecallShell.Machine.Shell.Builtin.Variables

/-!
# Reading lines

A line is read from the standard input, byte by byte up to its end, and falls apart into the values
of variables. A backslash takes away the meaning of what follows it, unless backslashes are asked to
stand for themselves.
-/

namespace RecallShell.Machine

open Text

namespace Builtin

/-- Reads one octet; nothing at the end, or when a signal comes that the shell acts on. -/
def readOctet : Sh (Option Char) := do
  (Act.waitFor fun pid w => w.canRead pid 0 || !(w.member pid).arrived.isEmpty : Act Unit)
  let r ← (Act.step fun pid w => if w.canRead pid 0 then w.read pid 0 1 else (.ok "", w) : Act _)
  match r with
  | .ok text => return text.toList.head?
  | .error _ => return none

/-- Reads a line, behind the characters read before, the last one first: its characters, each with
whether a backslash protects it, and whether it was ended. -/
def readLine (raw : Bool) : Nat → Bool → List Pattern.Written → Sh (List Pattern.Written × Bool)
  | 0, _, line => return (line.reverse, false)
  | turns + 1, escaped, line => do
    match ← readOctet with
    | none => return (line.reverse, false)
    | some c =>
      if c == '\x00' then readLine raw turns escaped line
      else if escaped then readLine raw turns false (if c == '\n' then line else (c, true) :: line)
      else if c == '\\' && !raw then readLine raw turns true line
      else if c == '\n' then return (line.reverse, true)
      else readLine raw turns false ((c, false) :: line)

/-- The parts of a line that have been set apart so far. -/
structure Portions where
  /-- The parts that are complete, the last one first. -/
  complete : List String
  /-- The characters of the part that has begun, the last one first. -/
  current : List Char
  /-- The number of variables that still wait for a part. -/
  left : Nat
  /-- Whether a blank has just ended a part. -/
  afterBlank : Bool
  /-- How many characters of the last part count, if blanks at its end do not. -/
  kept : Option Nat

/-- Takes one more character of a line. The last variable gets all that is left, separators
included, but for blanks at its end and for a separator that nothing follows. -/
def Portions.step (separators : List Char) (p : Portions) (w : Pattern.Written) : Portions :=
  let (c, protected_) := w
  let grown : Portions := { p with current := c :: p.current, afterBlank := false }
  if protected_ then grown
  else
    let separates := separators.contains c
    let isBlank := separates && (c == ' ' || c == '\t' || c == '\n')
    if p.left == 0 then
      if isBlank then
        { p with current := c :: p.current, kept := p.kept.orElse fun _ => some p.current.length }
      else if separates && p.afterBlank then grown
      else { grown with kept := none }
    else if p.afterBlank && isBlank then { p with current := [] }
    else if p.afterBlank && separates then { p with current := [], afterBlank := false }
    else if separates then
      if p.current.isEmpty && isBlank then { p with afterBlank := false }
      else if p.left == 1 then
        { p with left := 0, kept := some p.current.length, current := c :: p.current
                 afterBlank := isBlank }
      else
        { p with complete := String.ofList p.current.reverse :: p.complete, current := []
                 left := p.left - 1, afterBlank := isBlank }
    else grown

/-- The values of so many variables that a line falls apart into; there may be fewer. -/
def portionsOf (separators : List Char) (count : Nat) (line : List Pattern.Written) : List String :=
  let p := line.foldl (Portions.step separators) ⟨[], [], count, false, none⟩
  let last := p.current.reverse
  let last := match p.kept with
    | some n => last.take n
    | none => last
  (if last.isEmpty then p.complete else String.ofList last :: p.complete).reverse

/-- Gives variables the values of a line; those without one become empty. -/
def assignPortions : List String → List String → Sh Unit
  | [], _ => pure ()
  | name :: names, values => do
    Sh.assign name (values.headD "")
    assignPortions names values.tail

/-- Reads a line into variables. -/
def read : Builtin := fun _ args => do
  let (given, names) ← options "p:r" args
  if names.isEmpty then misused "arg count"
  let (line, ended) ← readLine (hasOption given 'r') Act.endless false []
  match names.find? fun n => !isName n.toList with
  | some bad => misused s!"{bad}: bad variable name"
  | none => pure ()
  assignPortions names (portionsOf (← get).separators names.length line)
  return if ended then 0 else 1

end Builtin

end RecallShell.Machine
