import RecallShell.Machine.Shell.Builtin.Basic
import RecallShell.Machine.Shell.Grammar

/-!
# Running scripts

A script is read one complete command at a time, and each is run before the next one is read: what
it changes can change how the script is read on.
-/

namespace RecallShell.Machine

/-- What is said of a script that cannot be read, in short. -/
def SyntaxCause.plainText : SyntaxCause → String
  | .unexpected label expected =>
    match expected with
    | some expected => s!"Syntax error: {label} unexpected (expecting {expected})"
    | none => s!"Syntax error: {label} unexpected"
  | .other text => text
  | .needsMore => "Syntax error: end of file unexpected"

/-- Whether a script ends where more of it is needed. -/
def SyntaxCause.isEnd : SyntaxCause → Bool
  | .unexpected label _ => label == Token.ending.label
  | .needsMore => true
  | _ => false

namespace Sh

/-- What a script is called in messages at length. -/
inductive ScriptTitle where
  /-- The script given to the shell by its arguments. -/
  | given
  /-- A text that a command evaluates. -/
  | evaluated
  /-- A file. -/
  | file
  deriving DecidableEq, Repr

/-- Gives up because a script cannot be read. -/
def refuseScript {α : Type} (title : ScriptTitle) (endsLine : Bool) (e : SyntaxFault) : Sh α := do
  let s ← get
  if s.isRich then
    let isEnd := e.cause.isEnd
    let line := if isEnd && !endsLine then e.line + 1 else e.line
    let start := match title with
      | .given => s!"{s.name}: -c: line {line}: "
      | .evaluated => s!"{s.name}: "
      | .file => s!"{s.name}: line {line}: "
    let text := if isEnd then "syntax error: unexpected end of file" else e.cause.plainText
    sayError s!"{start}{text}\n"
    flush
    setStatus misuse
    throw .fault
  else faultAt e.line e.cause.plainText

/-- Runs statements in turn. -/
def runList (r : Runner) (manner : Manner) : List Statement → Sh Unit
  | [] => pure ()
  | [s] => r.run manner s
  | s :: rest => do
    r.run ⟨manner.tested, false⟩ s
    runList r manner rest

/-- Runs the rest of a script, from some line on; says whether there was anything to be run. -/
def runRest (r : Runner) (manner : Manner) (title : ScriptTitle) (endsLine : Bool) :
    Nat → List Char → Nat → Bool → Sh Bool
  | 0, _, _, ran => return ran
  | fuel + 1, chars, line, ran => do
    match Complete.read (Reading.ofChars (← get).dialect false chars line) with
    | .error e => refuseScript title endsLine e
    | .ok c => do
      let ran := ran || !c.body.isEmpty
      runList r ⟨manner.tested, manner.last && c.isLast⟩ c.body
      if c.isLast then return ran
      else runRest r manner title endsLine fuel c.rest c.line ran

/-- Runs a text as a script. -/
def runText (r : Runner) (manner : Manner) (title : ScriptTitle) (text : String) : Sh Unit := do
  let chars := text.toList.filter (· != '\x00')
  let endsLine := chars.getLast? == some '\n'
  let ran ← runRest r manner title endsLine (chars.length + 2) chars 1 false
  if !ran then setStatus 0
  if manner.last then throw .exits

end Sh

end RecallShell.Machine
