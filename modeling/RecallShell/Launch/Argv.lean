import RecallShell.ShellError
import RecallShell.Text.Escape

/-!
# Argument vectors

A program receives its arguments as strings that each end with a byte zero, in an array of
pointers that ends with a null pointer. An argument that holds a zero itself cannot be handed over
whole, and is not handed over at all.
-/

namespace RecallShell

open Text

/-- The arguments of a program as the system takes them. -/
structure Argv where
  /-- The bytes of each argument, with the zero that ends it. -/
  strings : List Bytes
  deriving DecidableEq, Repr, Inhabited

namespace Argv

/-- Whether an argument holds the character that ends strings. -/
def holdsZero (arg : String) : Bool := arg.toList.contains '\x00'

/-- An argument with the zero that ends it. -/
def terminated (arg : String) : Bytes := encode arg ++ [0]

/-- The arguments as the system takes them, or the first one that cannot be handed over. -/
def ofArgs (args : List String) : Except ShellError Argv :=
  match args.find? holdsZero with
  | some arg => .error (.invalidArgument (escape arg))
  | none => .ok ⟨args.map terminated⟩

/-- The array of pointers: where each string lies, and null at the end. -/
def pointers (v : Argv) : List (Option Nat) := (List.range v.strings.length).map some ++ [none]

/-- The bytes that a pointer leads to, up to the first zero. -/
def stringAt (v : Argv) (i : Nat) : Bytes := (v.strings.getD i []).takeWhile (· != 0)

/-- What a program finds when it follows the pointers up to the null pointer. -/
def received (v : Argv) : List Bytes :=
  (v.pointers.takeWhile Option.isSome).filterMap fun p => p.map v.stringAt

/-- Whether the pointers lead to the strings in order and only the last one is null. -/
def wellFormed (v : Argv) : Bool :=
  v.pointers.getLast? == some none &&
    v.pointers.dropLast == (List.range v.strings.length).map some

/-- Whether there is no argument, not even the program's name. -/
def isEmpty (v : Argv) : Bool := v.strings.isEmpty

end Argv

end RecallShell
