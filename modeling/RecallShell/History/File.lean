import RecallShell.History
import RecallShell.Disk
import RecallShell.ShellError
import RecallShell.Text.Blank
import RecallShell.Text.Lines

/-!
# The history file

A history is kept in a file, each entry followed by a line feed. Reading the file takes every line
that is not blank, without the terminators at its end, and keeps the newest entries there is room
for. A file that is missing or cannot be opened leaves the history empty; where reading stops midway,
the lines that were read whole are taken.
-/

namespace RecallShell

open Text

namespace History

/-- The content of the file that keeps some entries. -/
def contentOf (entries : List String) : Bytes :=
  entries.flatMap fun entry => encode entry ++ [lineFeed]

/-- The entry that a line of the file holds; a blank line holds none. -/
def entryOfLine? (line : Bytes) : Option String :=
  let cs := dropAllAtEnd isTerminator (decodeChars line)
  if allBlank cs then none else some (String.ofList cs)

/-- The entries that a file holds. -/
def entriesOf (content : Bytes) : List String := (lines content).filterMap entryOfLine?

/-- The history that a file holds. -/
def ofContent (content : Bytes) : History := empty.appendAll (entriesOf content)

/-- What is said about a history file that could not be read; one that is missing is no cause for
words. -/
def loadWarning? (path : Bytes) : ReadFault → Option String
  | .opening e =>
    if e.kind = .notFound then none
    else some s!"cannot open history file {decode path}: {e.text}"
  | .reading _ e => some s!"stopped reading history file {decode path}: {e.text}"

/-- The history kept at a path, and what is to be said about reading it. -/
def load (disk : Disk) (path : Bytes) : History × Option String :=
  match disk.read path with
  | .ok content => (ofContent content, none)
  | .error fault => (ofContent (wholeLines fault.gathered), loadWarning? path fault)

/-- Keeps a history at a path in place of what was there. -/
def save (h : History) (path : Bytes) (disk : Disk) : Except ShellError Unit × Disk :=
  match disk.write path (contentOf h.entries) with
  | (.ok (), disk) => (.ok (), disk)
  | (.error e, disk) => (.error (.history path e), disk)

end History

end RecallShell
