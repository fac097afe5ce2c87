/-!
# Bytes and text

Text is written as UTF-8 and read back leniently: wherever the bytes stop being the beginning of a
character, the unfinished bytes stand for one replacement character. Reading goes byte by byte
through a state that says what the next byte may be, so a line feed always ends a character.
-/

namespace RecallShell.Text

/-- A string of bytes, as files, pipes and paths hold it. -/
abbrev Bytes := List UInt8

/-- The bytes of a text. -/
def encode (s : String) : Bytes := s.toList.flatMap String.utf8EncodeChar

/-- The bytes of texts set one after the other are set one after the other. -/
@[simp] theorem encode_append (s t : String) : encode (s ++ t) = encode s ++ encode t := by
  simp [encode]

/-- Stands for bytes that are no text. -/
def replacement : Char := '\uFFFD'

/-- Which bytes may come next inside a character. -/
inductive Follower where
  /-- Any of `80` to `BF`. -/
  | any
  /-- Only `A0` to `BF`: below it the character would have a shorter form. -/
  | fromA0
  /-- Only `80` to `9F`: above it lie the surrogates, which are no characters. -/
  | upTo9F
  /-- Only `90` to `BF`: below it the character would have a shorter form. -/
  | from90
  /-- Only `80` to `8F`: above it Unicode ends. -/
  | upTo8F
  deriving DecidableEq, Repr

/-- Whether a byte may come next. -/
def Follower.admits : Follower → UInt8 → Bool
  | .any, b => 0x80 ≤ b && b ≤ 0xBF
  | .fromA0, b => 0xA0 ≤ b && b ≤ 0xBF
  | .upTo9F, b => 0x80 ≤ b && b ≤ 0x9F
  | .from90, b => 0x90 ≤ b && b ≤ 0xBF
  | .upTo8F, b => 0x80 ≤ b && b ≤ 0x8F

/-- How much of a character has been read. -/
inductive Decoding where
  /-- The next byte begins a character. -/
  | between
  /-- A character has begun: its bits so far, which bytes continue it, and how many more follow
  that one. -/
  | within (bits : Nat) (next : Follower) (further : Nat)
  deriving DecidableEq, Repr

/-- Reads the first byte of a character: the character it completes or spoils, if any, and where
that leaves the reading. -/
def Decoding.start (b : UInt8) : List Char × Decoding :=
  if b < 0x80 then ([Char.ofNat b.toNat], .between)
  else if b < 0xC2 then ([replacement], .between)
  else if b < 0xE0 then ([], .within (b.toNat - 0xC0) .any 0)
  else if b = 0xE0 then ([], .within 0 .fromA0 1)
  else if b = 0xED then ([], .within 0xD .upTo9F 1)
  else if b < 0xF0 then ([], .within (b.toNat - 0xE0) .any 1)
  else if b = 0xF0 then ([], .within 0 .from90 2)
  else if b < 0xF4 then ([], .within (b.toNat - 0xF0) .any 2)
  else if b = 0xF4 then ([], .within 4 .upTo8F 2)
  else ([replacement], .between)

/-- Reads one byte; a byte that cannot continue the character begun spoils it and begins anew. -/
def Decoding.step : Decoding → UInt8 → List Char × Decoding
  | .between, b => Decoding.start b
  | .within bits next further, b =>
    if next.admits b then
      let bits := bits * 64 + (b.toNat - 0x80)
      match further with
      | 0 => ([Char.ofNat bits], .between)
      | n + 1 => ([], .within bits .any n)
    else (replacement :: (Decoding.start b).1, (Decoding.start b).2)

/-- The characters that bytes stand for when reading stands at a given point; a character that the
end cuts off is spoilt too. -/
def decodeFrom : Decoding → Bytes → List Char
  | .between, [] => []
  | .within .., [] => [replacement]
  | d, b :: bs => (d.step b).1 ++ decodeFrom (d.step b).2 bs

/-- The characters that bytes stand for. -/
def decodeChars (bs : Bytes) : List Char := decodeFrom .between bs

/-- The text that bytes stand for. -/
def decode (bs : Bytes) : String := String.ofList (decodeChars bs)

/-- The byte that ends a line. -/
def lineFeed : UInt8 := 10

/-- A line feed continues no character. -/
theorem Follower.admits_lineFeed (f : Follower) : f.admits lineFeed = false := by
  cases f <;> decide

/-- A line feed reads as itself and leaves nothing unfinished. -/
theorem Decoding.step_lineFeed (d : Decoding) :
    d.step lineFeed = (decodeFrom d [] ++ ['\n'], .between) := by
  have h : Decoding.start lineFeed = (['\n'], .between) := by decide
  cases d with
  | between => exact h
  | within bits next further => simp [step, Follower.admits_lineFeed, h, decodeFrom]

end RecallShell.Text
