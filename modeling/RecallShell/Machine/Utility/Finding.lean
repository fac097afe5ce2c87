import RecallShell.Machine.Pattern
import RecallShell.Machine.Utility.Facts
import RecallShell.Machine.Utility.Files

/-!
# Finding files

Directories are walked through, and the paths of the files are written for which each of some
questions has the answer yes. Operands come first, and the questions behind them.
-/

namespace RecallShell.Machine

open Text Work

/-- What is asked about a file. -/
inductive Query where
  /-- Its last name is covered by a pattern. -/
  | name (pattern : Pattern)
  /-- It is of a kind. -/
  | kind (letter : Char)
  /-- There is nothing in it. -/
  | empty
  deriving DecidableEq, Repr

/-- The answer to a question about a file. -/
def Query.holds (path : String) (node : Node) : Query → Bool
  | .name p => p.covers (characters (if (lastName path).isEmpty then path else lastName path))
  | .kind letter => letter == (if kindLetter node == '-' then 'f' else kindLetter node)
  | .empty =>
    match node.body with
    | .file content => content.isEmpty
    | .directory _ entries => entries.isEmpty
    | _ => false

/-- Reads questions. -/
def readQueries : List String → Work (List Query)
  | [] => return []
  | "-empty" :: args => return .empty :: (← readQueries args)
  | "-name" :: pattern :: args =>
    return .name (.of (pattern.toList.map fun c => (c, false))) :: (← readQueries args)
  | "-type" :: kind :: args => do
    match kind.toList with
    | [letter] =>
      if "fdlcp".toList.contains letter then return .kind letter :: (← readQueries args)
      else die s!"Unknown argument to -type: {letter}" 1
    | _ => die "Arguments to -type should contain only one letter" 1
  | word :: _ =>
    let tick := Char.ofNat 0x60
    if word == "-name" || word == "-type" then die s!"missing argument to {tick}{word}'" 1
    else if word.startsWith "-" then die s!"unknown predicate {tick}{word}'" 1
    else die s!"paths must precede expression: {tick}{word}'" 1

/-- Walks through what is at a path, so deep at most. -/
def walkAt (queries : List Query) : Nat → String → Work Unit
  | 0, _ => return
  | depth + 1, path => do
    match ← statusOf false path with
    | .error e => do
      flush
      complain (because (← quote path) e) 1
    | .ok (id, node) => do
      if queries.all (·.holds path node) then sayLine path
      if node.isDirectory then
        if !node.mayRead then
          flush
          complain (because (← quote path) .accessDenied) 1
        else
          forEach (((← disk).namesIn id).map octets) fun name =>
            walkAt queries depth (within path name)

/-- Finds files. -/
def find : Utility := fun i => do
  let roots := i.args.takeWhile fun arg => !arg.startsWith "-"
  let queries ← readQueries (i.args.drop roots.length)
  forEach (if roots.isEmpty then ["."] else roots) (walkAt queries 1000)

end RecallShell.Machine
