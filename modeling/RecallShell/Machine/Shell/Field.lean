import RecallShell.Disk.Change
import RecallShell.Machine.Pattern
import RecallShell.Text.Characters

/-!
# Fields

An expanded word is made of shreds: its characters, each with whether it is quoted and whether a
field may end at it. Shreds fall apart into fields, and fields with patterns in them stand for the
paths that match.
-/

namespace RecallShell.Machine

open Text

/-- A part of an expanded word. -/
inductive Shred where
  /-- A character: whether it is quoted, and whether a field may end at it. -/
  | char (c : Char) (quoted splits : Bool)
  /-- Quotes, which make a field of nothing. -/
  | quotes
  /-- The end of a field. -/
  | cut
  deriving DecidableEq, Repr

namespace Shred

/-- The text that shreds make up. -/
def text (shreds : List Shred) : String :=
  String.ofList (shreds.filterMap fun
    | .char c _ _ => some c
    | .cut => some ' '
    | .quotes => none)

/-- The characters that shreds make up, each with whether it is quoted. -/
def written (shreds : List Shred) : List Pattern.Written :=
  shreds.filterMap fun
    | .char c quoted _ => some (c, quoted)
    | _ => none

/-- The pattern that shreds make up. -/
def pattern (shreds : List Shred) : Pattern := Pattern.of (written shreds)

/-- The shreds of a value. -/
def ofValue (quoted : Bool) (text : String) : List Shred :=
  let chars := text.toList.map fun c => Shred.char c quoted (!quoted)
  if quoted then .quotes :: chars else chars

/-- The shreds of values, each in a field of its own. -/
def ofValues (quoted : Bool) (texts : List String) : List Shred :=
  ((texts.map (ofValue quoted)).intersperse [.cut]).flatten

/-- A shred at which a field may end. -/
def splitting : Shred → Shred
  | .char c false _ => .char c false true
  | shred => shred

end Shred

/-! ## Cutting fields -/

/-- The fields taken apart so far. -/
structure Splitting where
  /-- The fields that are complete, the last one first. -/
  complete : List (List Pattern.Written)
  /-- The field that has begun, if any, its last character first. -/
  current : Option (List Pattern.Written)
  /-- Whether a blank has just ended a field. -/
  afterBlank : Bool

/-- Ends the field that has begun. -/
def Splitting.close (s : Splitting) : Splitting :=
  match s.current with
  | some field => ⟨field.reverse :: s.complete, none, false⟩
  | none => s

/-- Whether a separator counts as one with others of its kind around it. -/
def isGapChar (c : Char) : Bool := c == ' ' || c == '\t' || c == '\n'

/-- Takes one more shred. Blanks in a row end one field, any other separator ends one each. -/
def Splitting.step (separators : List Char) (s : Splitting) : Shred → Splitting
  | .quotes => { s with current := some (s.current.getD []), afterBlank := false }
  | .cut => { s.close with afterBlank := false }
  | .char c quoted splits =>
    if splits && separators.contains c then
      if isGapChar c then
        if s.current.isSome then { s.close with afterBlank := true } else s
      else if s.current.isSome then s.close
      else if s.afterBlank then { s with afterBlank := false }
      else { s with complete := [] :: s.complete }
    else
      { s with current := some ((c, quoted) :: s.current.getD []), afterBlank := false }

/-- The fields that shreds fall apart into. -/
def fieldsOf (separators : List Char) (shreds : List Shred) : List (List Pattern.Written) :=
  (shreds.foldl (Splitting.step separators) ⟨[], none, false⟩).close.complete.reverse

/-- The text of a field. -/
def fieldText (field : List Pattern.Written) : String := String.ofList (field.map (·.1))

/-! ## Paths -/

/-- Whether a name is found under a path. -/
def isThere (disk : Disk) (path : String) : Bool := (disk.status false (ofOctets path)).toBool

/-- The names that stand for a part of a path, in the directory that the path leads to so far. -/
def namesFor (disk : Disk) (before : String) (part : List Pattern.Written) : List String :=
  if !Pattern.isSpecial part then [fieldText part]
  else
    let directory := if before.isEmpty then "." else before
    match disk.status true (ofOctets directory) with
    | .ok id =>
      if !(disk.node id).isDirectory || !(disk.node id).mayRead then []
      else
        let pattern := Pattern.of part
        let dotted := part.head? == some ('.', false) || part.head? == some ('.', true)
        let own := if dotted then [".", ".."] else []
        ((own ++ ((disk.namesIn id).mergeSort Disk.bytesLe).map octets).filter fun name =>
          name.startsWith "." == dotted && pattern.covers name.toList)
    | .error _ => []

/-- The paths that match the parts of a path, behind what is settled of it. -/
def pathsFor (disk : Disk) : List (List Pattern.Written) → String → List String
  | [], before => if isThere disk before then [before] else []
  | [part], before =>
    ((namesFor disk before part).map (before ++ ·)).filter (isThere disk)
  | part :: parts, before =>
    (namesFor disk before part).flatMap fun name => pathsFor disk parts s!"{before}{name}/"

/-- The paths that match a field, in order. -/
def pathsOf (disk : Disk) (field : List Pattern.Written) : List String :=
  (pathsFor disk (splitBy (fun w => w.1 == '/') field) "").mergeSort fun a b => a ≤ b

/-- The texts that a field stands for: the paths that match it, or itself if there are none. -/
def matchesFor (disk : Disk) (field : List Pattern.Written) : List String :=
  if Pattern.isSpecial field then
    let found := pathsOf disk field
    if found.isEmpty then [fieldText field] else found
  else [fieldText field]

end RecallShell.Machine
