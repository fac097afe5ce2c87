import RecallShell.Text.Split

/-!
# Blank characters

A character is blank when it has the Unicode property White_Space. The words of a text are its
maximal runs of characters that are not blank.
-/

namespace RecallShell.Text

/-- The characters with the property White_Space, as inclusive ranges of code points. -/
def blankRanges : List (Nat × Nat) :=
  [(0x9, 0xD), (0x20, 0x20), (0x85, 0x85), (0xA0, 0xA0), (0x1680, 0x1680), (0x2000, 0x200A),
    (0x2028, 0x2029), (0x202F, 0x202F), (0x205F, 0x205F), (0x3000, 0x3000)]

/-- Whether a code point lies in one of the inclusive ranges. -/
def inRanges (ranges : List (Nat × Nat)) (n : Nat) : Bool :=
  ranges.any fun r => r.1 ≤ n && n ≤ r.2

/-- Whether a character has the property White_Space. -/
def isBlank (c : Char) : Bool := inRanges blankRanges c.toNat

/-- Whether every character of a text is blank. -/
def allBlank (cs : List Char) : Bool := cs.all isBlank

/-- The blank-separated words of a text. -/
def words (s : String) : List String := (wordsBy isBlank s.toList).map String.ofList

end RecallShell.Text
