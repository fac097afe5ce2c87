import RecallShell.Machine.Mode
import RecallShell.Machine.Utility.Source

/-!
# Facts about files

What is said of a file beside its content: its kind, its size, the room that it takes, its mode in
letters.
-/

namespace RecallShell.Machine

open Text Work

/-- What the kind of a node is called. -/
def kindOf (n : Node) : String :=
  match n.body with
  | .file content | .damaged content _ =>
    if content.isEmpty then "regular empty file" else "regular file"
  | .program _ => "regular file"
  | .directory .. => "directory"
  | .link _ => "symbolic link"
  | .device _ => "character special file"
  | .pipe _ | .outlet _ => "fifo"

/-- The letter for the kind of a node. -/
def kindLetter (n : Node) : Char :=
  match n.body with
  | .file _ | .damaged .. | .program _ => '-'
  | .directory .. => 'd'
  | .link _ => 'l'
  | .device _ => 'c'
  | .pipe _ | .outlet _ => 'p'

/-- The kind and the mode of a node in ten letters. -/
def modeLetters (n : Node) : String := (kindLetter n).toString ++ Mode.letters n.mode

/-- What a link leads to. -/
def targetOf? (n : Node) : Option String :=
  match n.body with
  | .link target => some (octets target)
  | _ => none

/-- The room that is given out at once, in octets. -/
def roomUnit : Nat := 4096

/-- The size of a program. -/
def programSize : Nat := 125688

/-- The size of a node in octets. -/
def sizeOf_ (n : Node) : Nat :=
  match n.body with
  | .file content | .damaged content _ => content.length
  | .program _ => programSize
  | .directory .. => roomUnit
  | .link target => target.length
  | _ => 0

/-- The room that a node takes, in octets. -/
def roomOf (n : Node) : Nat :=
  match n.body with
  | .link _ => 0
  | _ => (sizeOf_ n + roomUnit - 1) / roomUnit * roomUnit

/-- How many units a number fills, the last one perhaps in part. -/
def unitsOf (unit n : Nat) : Nat := (n + unit - 1) / unit

end RecallShell.Machine
