import RecallShell.Machine.Quoting

/-!
# Escapes in output

Backslashes introduce escapes in the arguments of programs that write them out. Which escapes there
are, and where octal digits may stand, differs from program to program; one escape stops the output.
-/

namespace RecallShell.Machine

open Text

/-- How octal digits behind a backslash are read. -/
inductive OctalRule where
  /-- One to three digits. -/
  | threeDigits
  /-- A leading zero does not count towards the three digits. -/
  | zeroApart
  /-- Digits count only behind a zero, of which there may be three. -/
  | zeroOnly
  deriving DecidableEq, Repr

/-- The escapes that a program knows. -/
structure EscapeRule where
  /-- How octal digits are read. -/
  octal : OctalRule
  /-- Whether there are escapes for hexadecimal digits. -/
  hex : Bool
  /-- Whether a backslash can protect a double quote. -/
  quotes : Bool
  /-- Whether there is an escape that stops the output. -/
  stops : Bool
  /-- Whether there are escapes for characters by their numbers. -/
  unicode : Bool
  deriving DecidableEq, Repr

/-- Whether a character is an octal digit. -/
def isOctal (c : Char) : Bool := '0' ≤ c && c ≤ '7'

/-- Whether a character is a hexadecimal digit. -/
def isHex (c : Char) : Bool := c.isDigit || ('a' ≤ c && c ≤ 'f') || ('A' ≤ c && c ≤ 'F')

/-- The value of a digit in a base up to sixteen. -/
def hexValue (c : Char) : Nat :=
  if c.isDigit then c.toNat - 48 else if 'a' ≤ c then c.toNat - 87 else c.toNat - 55

/-- The number that digits of a base write. -/
def digitsValue (base : Nat) (digits : List Char) : Nat :=
  digits.foldl (fun n c => n * base + hexValue c) 0

/-- The byte of a number, as a character. -/
def octet (n : Nat) : Char := Char.ofNat (n % 256)

/-- What an escape comes to. -/
inductive Escaped where
  /-- Characters, and what follows the escape. -/
  | chars (shown rest : List Char)
  /-- The end of the output. -/
  | stop

/-- What the escape behind a backslash comes to. -/
def EscapeRule.escape (rule : EscapeRule) : List Char → Escaped
  | [] => .chars ['\\'] []
  | c :: cs =>
    match controlLetters.find? fun r => r.2 == c with
    | some (control, _) => .chars [control] cs
    | none =>
      if c == '\\' || (rule.quotes && c == '"') then .chars [c] cs
      else if c == 'c' && rule.stops then .stop
      else if c == 'e' then .chars ['\x1b'] cs
      else if c == 'x' && rule.hex && cs.head?.any isHex then
        let digits := (cs.take 2).takeWhile isHex
        .chars [octet (digitsValue 16 digits)] (cs.drop digits.length)
      else if rule.unicode && (c == 'u' || c == 'U') && cs.head?.any isHex then
        let digits := (cs.take (if c == 'u' then 4 else 8)).takeWhile isHex
        let shown := octets (encode (Char.ofNat (digitsValue 16 digits)).toString)
        .chars shown.toList (cs.drop digits.length)
      else if isOctal c && (rule.octal != .zeroOnly || c == '0') then
        let from_ := if rule.octal != .threeDigits && c == '0' && cs.head?.any isOctal then cs
          else c :: cs
        let digits := (from_.take 3).takeWhile isOctal
        .chars [octet (digitsValue 8 digits)] (from_.drop digits.length)
      else .chars ['\\', c] cs

/-- The characters that a text with escapes stands for, and whether it stops the output. -/
def EscapeRule.unescapeChars (rule : EscapeRule) : Nat → List Char → List Char × Bool
  | 0, _ | _, [] => ([], false)
  | fuel + 1, '\\' :: cs =>
    match rule.escape cs with
    | .stop => ([], true)
    | .chars shown rest => let r := rule.unescapeChars fuel rest; (shown ++ r.1, r.2)
  | fuel + 1, c :: cs => let r := rule.unescapeChars fuel cs; (c :: r.1, r.2)

/-- The text that a text with escapes stands for, and whether it stops the output. -/
def EscapeRule.unescape (rule : EscapeRule) (text : String) : String × Bool :=
  let r := rule.unescapeChars (text.length + 1) text.toList
  (String.ofList r.1, r.2)

/-- The escapes of the program that writes its arguments, when asked to. -/
def echoEscapes : EscapeRule := ⟨.zeroApart, true, false, true, false⟩

/-- The escapes of a shell that writes arguments. -/
def shellEscapes : EscapeRule := ⟨.zeroApart, false, false, true, false⟩

/-- The escapes of a format. -/
def formatEscapes : EscapeRule := ⟨.threeDigits, true, true, true, true⟩

/-- The escapes of an argument that a format writes with escapes. -/
def argumentEscapes : EscapeRule := ⟨.zeroApart, true, true, true, true⟩

/-- The escapes of a format that a shell applies. -/
def shellFormatEscapes : EscapeRule := ⟨.threeDigits, false, false, false, false⟩

end RecallShell.Machine
