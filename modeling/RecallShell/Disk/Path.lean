import RecallShell.Text.Split
import RecallShell.Text.Utf8

/-!
# Paths

A path is a string of bytes: names set apart by slashes, taken from the root when it begins with a
slash and from the working directory otherwise.
-/

namespace RecallShell

open Text

/-- The byte that sets the names of a path apart. -/
def slash : UInt8 := 47

/-- The byte that no path may hold. -/
def zeroByte : UInt8 := 0

/-- The greatest number of bytes in one name. -/
def maxName : Nat := 255

/-- The greatest number of bytes in a path. -/
def maxPath : Nat := 4095

/-- A path, taken apart. -/
structure Path where
  /-- Whether it is taken from the root. -/
  absolute : Bool
  /-- Its names, in order; none is empty. -/
  names : List Bytes
  /-- Whether a slash ends it, so that it must stand for a directory. -/
  endsInSlash : Bool
  deriving DecidableEq, Repr

namespace Path

/-- Takes a path apart; slashes in a row count as one. -/
def ofBytes (bs : Bytes) : Path where
  absolute := bs.head? == some slash
  names := wordsBy (· == slash) bs
  endsInSlash := bs.getLast? == some slash

/-- The path of the directory that the last name of a path lies in. -/
def directoryPart (bs : Bytes) : Bytes :=
  let before := ((bs.reverse.dropWhile (· == slash)).dropWhile (· != slash)).reverse
  if before.isEmpty then (if bs.head? == some slash then [slash] else encode ".") else before

/-- The name by which a directory calls itself. -/
def self : Bytes := encode "."

/-- The name by which a directory calls the one that holds it. -/
def parent : Bytes := encode ".."

end Path

end RecallShell
