import RecallShell.Text.Characters
import RecallShell.Text.Printable

/-!
# Names in messages

File names are shown so that a shell would read them back as one word: as they are if nothing in
them means anything to a shell, in quotes otherwise, and with the bytes that show nothing written as
escapes. Other texts are shown between curly quotes.
-/

namespace RecallShell.Machine

open Text

/-- The letters that stand for controls in escapes. -/
def controlLetters : List (Char × Char) :=
  [('\x07', 'a'), ('\x08', 'b'), ('\x0c', 'f'), ('\n', 'n'), ('\r', 'r'), ('\t', 't'), ('\x0b', 'v')]

/-- A byte in three octal digits. -/
def inOctal (b : UInt8) : List Char :=
  [b / 64, b / 8 % 8, b % 8].map fun d => Char.ofNat (48 + d.toNat)

/-- The escape for the bytes of a character that shows nothing. -/
def escapedBytes (c : Char) : List Char :=
  match controlLetters.lookup c with
  | some letter => ['\\', letter]
  | none => (octetsOf c).flatMap fun o => '\\' :: inOctal (UInt8.ofNat o.toNat)

namespace Quoting

/-- Whether a character makes quotes necessary wherever it stands. -/
def needsQuotes (c : Char) : Bool :=
  " !\"$&()*;<=>[^|?\\'".toList.contains c || c.toNat == 0x60 || !isPrintable c

/-- Whether a name must be quoted for a shell to read it as one word. -/
def isSpecial (cs : List Char) : Bool :=
  cs.isEmpty || cs.any needsQuotes || cs.head? == some '#' || cs.head? == some '~'
    || cs == ['\x7b'] || cs == ['\x7d']

/-- Whether double quotes will do around a single quote. -/
def allowsDouble (cs : List Char) : Bool :=
  cs.all fun c => c.isAlphanum || " %+,-./:]_'@".toList.contains c || 0x7F < c.toNat && isPrintable c

/-- Characters between single quotes, with the runs that show nothing written as escapes. -/
def segments : Bool → List Char → List Char
  | escaping, [] => if escaping then [] else ['\x27']
  | escaping, c :: cs =>
    if isPrintable c then
      let shown := if c == '\x27' then "'\\''".toList else [c]
      (if escaping then ['\x27'] else []) ++ shown ++ segments false cs
    else
      let next := cs.takeWhile fun c => !isPrintable c
      let opening := if escaping then [] else "'$'".toList
      let closing := if next.isEmpty then ['\x27'] else []
      opening ++ escapedBytes c ++ closing ++ segments true cs

/-- A name in quotes. -/
def always (name : String) : String :=
  let cs := characters name
  let shown :=
    if cs.contains '\x27' && allowsDouble cs then '"' :: cs ++ ['"']
    else '\x27' :: segments false cs
  ofCharacters shown

/-- A name in quotes if it needs them. -/
def ifNeeded (name : String) : String :=
  if isSpecial (characters name) then always name else name

/-- A text between curly quotes. -/
def curly (text : String) : String :=
  let cs := characters text
  let shown := cs.flatMap fun c =>
    if c == '\\' then ['\\', '\\'] else if isPrintable c then [c] else escapedBytes c
  ofCharacters ('‘' :: shown ++ ['’'])

/-- A text between straight quotes, of which those in it are protected. -/
def straight (text : String) : String :=
  let shown := text.toList.flatMap fun c =>
    if c == '\\' || c == '\x27' then ['\\', c]
    else if ' ' ≤ c && c ≤ '~' then [c]
    else
      match controlLetters.lookup c with
      | some letter => ['\\', letter]
      | none => '\\' :: inOctal (UInt8.ofNat c.toNat)
  "'" ++ String.ofList shown ++ "'"

end Quoting

end RecallShell.Machine
