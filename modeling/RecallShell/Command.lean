import RecallShell.Text.Blank
import RecallShell.Text.Lines

/-!
# Commands

A command is a list of arguments and whether it is to be left running. It is read off a line by
cutting the line at spaces, tabs and ampersands; an ampersand anywhere asks for the background. A
stored program name becomes a foreground command by cutting it at blanks of every kind.
-/

namespace RecallShell

open Text

/-- What a line asks to be launched. -/
structure Command where
  /-- The program's name, if there is one, and the arguments after it. -/
  args : List String
  /-- Whether the command is to be left running. -/
  background : Bool
  deriving DecidableEq, Repr, Inhabited

namespace Command

/-- A command to be waited for. -/
def foreground (args : List String) : Command := ⟨args, false⟩

/-- The first argument names the program. -/
def program? (c : Command) : Option String := c.args.head?

/-- Whether there is nothing to launch. -/
def isEmpty (c : Command) : Bool := c.args.isEmpty

/-- A command has a program exactly when it is not empty. -/
theorem program?_eq_none_iff {c : Command} : c.program? = none ↔ c.isEmpty = true := by
  simp [program?, isEmpty, List.head?_eq_none_iff]

/-- The number of characters of a line that count. -/
def maxLine : Nat := 80

/-- The first characters of a text. -/
def clip (count : Nat) (s : String) : String := String.ofList (s.toList.take count)

/-- The mark that asks for the background. -/
def ampersand : Char := '&'

/-- The characters that end an argument. -/
def isSeparator (c : Char) : Bool := c == ' ' || c == '\t' || c == ampersand

/-- The characters of a line that count: no terminator, and none past the limit. -/
def counted (line : String) : List Char := (chomp line.toList).take maxLine

/-- The command that a line asks for. -/
def parse (line : String) : Command where
  args := (wordsBy isSeparator (counted line)).map String.ofList
  background := (counted line).contains ampersand

/-- The command that a stored entry stands for. -/
def ofEntry (entry : String) : Command := foreground (words entry)

end Command

end RecallShell
