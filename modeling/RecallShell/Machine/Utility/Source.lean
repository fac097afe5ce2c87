import RecallShell.Machine.Options
import RecallShell.Machine.Quantity

/-!
# Sources

The operands of many utilities are the files that they read, one after the other; a dash, or no
operand at all, stands for the standard input. A source that cannot be read is complained about and
passed over.
-/

namespace RecallShell.Machine

open Text Work

/-- The operands, or the standard input if there are none. -/
def sources (a : Arguments) : List String := if a.operands.isEmpty then ["-"] else a.operands

/-- A complaint with its cause. -/
def because (text : String) (e : Errno) : String := s!"{text}: {e.text}"

/-- What most utilities say of a file that cannot be read. -/
def unreadable (path : String) (e : Errno) : String := because (Quoting.ifNeeded path) e

/-- Opens a source and does something with it; says whether it could be opened. -/
def withSource (path : String) (refusal : String → Errno → String) (status : Nat)
    (run : Nat → Work Unit) : Work Bool := do
  match ← openInput path with
  | .error e => do
    complain (refusal path e) status
    return false
  | .ok descriptor => do
    run descriptor
    closeInput descriptor
    return true

/-- Opens sources in turn and does something with each of them. -/
def withSources (paths : List String) (status : Nat) (run : String → Nat → Work Unit) : Work Unit :=
  forEach paths fun path => do discard <| withSource path unreadable status (run path)

/-- Does something with each piece of what is left to be read, of which there are so many at most. -/
def eachPieceFrom (descriptor size : Nat) (go : String → Work Unit) : Nat → Work (Except Errno Unit)
  | 0 => return .ok ()
  | turns + 1 => do
    match ← read descriptor size with
    | .error e => return .error e
    | .ok text =>
      if text.isEmpty then return .ok ()
      else do
        go text
        eachPieceFrom descriptor size go turns

/-- Does something with each piece of what is left to be read. -/
def eachPiece (descriptor size : Nat) (go : String → Work Unit) : Work (Except Errno Unit) :=
  eachPieceFrom descriptor size go Act.endless

/-- Reads sources in turn and does something with each line; the last one may lack its end. -/
def withLines (paths : List String) (status : Nat) (go : String → Bool → Work Unit) : Work Unit :=
  withSources paths status fun path descriptor => do
    let each (_ : Unit) (line : String) (ended : Bool) : Work (Unit × Bool) := do
      go line ended
      return ((), true)
    match ← foldLines descriptor each Act.endless "" () with
    | (_, .ok _) => pure ()
    | (_, .error e) => complain (unreadable path e) status

/-- The lines of a text with their ends; the last one may lack its own. -/
def linesWithEnds (text : String) : List String :=
  let parts := text.splitToList (· == '\n')
  parts.dropLast.map (· ++ "\n") ++ if parts.getLastD "" == "" then [] else [parts.getLastD ""]

/-- Writes to a file, which is made anew. -/
def writeFile (path text : String) : Work (Except Errno Unit) := do
  match ← (Act.open_ path .output : Act _) with
  | .error e => return .error e
  | .ok descriptor => do
    let result ← (Act.write descriptor text : Act _)
    (Act.close descriptor : Act Unit)
    return result

/-! ## Numbers and columns -/

/-- A text flush right in a column. -/
def rightAligned (width : Nat) (text : String) : String :=
  String.ofList (List.replicate (width - text.length) ' ') ++ text

/-- A number flush right in a column. -/
def flushRight (width n : Nat) : String := rightAligned width (toString n)

/-- The number that digits alone write. -/
def natural? (text : String) : Option Nat :=
  let cs := text.toList
  if cs.isEmpty || !cs.all Char.isDigit then none else some (digitsValue 10 cs)

/-- The factors that letters behind a number stand for. -/
def multipliers : List (String × Nat) :=
  let powers (base : Nat) (suffix : String) : List (String × Nat) :=
    ("KMGTPEZY".toList.zipIdx).map fun p => (p.1.toString ++ suffix, base ^ (p.2 + 1))
  [("", 1), ("b", 512), ("k", 1024), ("m", 1024 ^ 2), ("kB", 1000)] ++ powers 1024 "" ++
    powers 1000 "B" ++ powers 1024 "iB"

/-- The number that digits and perhaps a multiplier write. -/
def multiplied? (text : String) : Option Nat :=
  let digits := text.toList.takeWhile Char.isDigit
  let factor? := multipliers.lookup (String.ofList (text.toList.drop digits.length))
  if digits.isEmpty then none else factor?.map fun factor => digitsValue 10 digits * factor

/-- A duration in microseconds: a number with a point and perhaps a unit. -/
def duration? (text : String) : Option Nat :=
  match Quantity.read? text.toList with
  | some (.finite false num den, rest) =>
    let seconds? : Option Nat := match rest with
      | [] | ['s'] => some 1
      | ['m'] => some 60
      | ['h'] => some 3600
      | ['d'] => some 86400
      | _ => none
    seconds?.map fun s => num * s * 1000000 / den
  | some (.infinite false, []) => some (10 ^ 18)
  | _ => none

end RecallShell.Machine
