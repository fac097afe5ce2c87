import RecallShell.Text.Utf8

/-!
# Lines

Bytes are cut into lines after each line feed; the last line may lack one. A line that was read
loses one terminator at its end: a line feed, and before it a carriage return.
-/

namespace RecallShell.Text

/-- The lines of some bytes, each with the line feed that ends it. -/
def lines : Bytes → List Bytes
  | [] => []
  | b :: bs =>
    if b = lineFeed then [b] :: lines bs
    else
      match lines bs with
      | [] => [[b]]
      | line :: rest => (b :: line) :: rest

/-- Cutting into lines loses nothing. -/
@[simp] theorem flatten_lines (bs : Bytes) : (lines bs).flatten = bs := by
  induction bs with
  | nil => rfl
  | cons b bs ih =>
    unfold lines
    split
    · simp [ih]
    · split <;> simp_all

/-- What is left of some bytes without those behind the last line feed. -/
def wholeLines (bs : Bytes) : Bytes := (bs.reverse.dropWhile (· != lineFeed)).reverse

/-- The first line and what follows it, if a line feed occurs. -/
def firstLine? : Bytes → Option (Bytes × Bytes)
  | [] => none
  | b :: bs =>
    if b = lineFeed then some ([b], bs)
    else (firstLine? bs).map fun r => (b :: r.1, r.2)

/-- Finding the first line loses nothing. -/
theorem append_of_firstLine?_eq_some {bs line rest : Bytes}
    (h : firstLine? bs = some (line, rest)) : line ++ rest = bs := by
  induction bs generalizing line with
  | nil => simp [firstLine?] at h
  | cons b bs ih =>
    unfold firstLine? at h
    split at h
    · obtain ⟨rfl, rfl⟩ := Prod.mk.inj (Option.some.inj h)
      rfl
    · obtain ⟨⟨l, r⟩, hr, he⟩ := Option.map_eq_some_iff.1 h
      simp only [Prod.mk.injEq] at he
      obtain ⟨rfl, rfl⟩ := he
      simp [ih hr]

/-- What is left of a text without one character at its end, if it ends in that character. -/
def dropOneAtEnd (c : Char) (cs : List Char) : List Char :=
  if cs.getLast? = some c then cs.dropLast else cs

/-- What is left of a line without its terminator: one line feed, then one carriage return. -/
def chomp (cs : List Char) : List Char := dropOneAtEnd '\r' (dropOneAtEnd '\n' cs)

/-- What is left of a text without all characters of a kind at its end. -/
def dropAllAtEnd (p : Char → Bool) (cs : List Char) : List Char :=
  (cs.reverse.dropWhile p).reverse

/-- Whether a character belongs to line terminators. -/
def isTerminator (c : Char) : Bool := c == '\r' || c == '\n'

/-- A text with every line feed and carriage return at its end removed. -/
def trimTerminators (s : String) : String := String.ofList (dropAllAtEnd isTerminator s.toList)

end RecallShell.Text
