import RecallShell.Text.Printable

/-!
# Escaped text

Text is shown in messages with every character made visible: quotes and the backslash are preceded
by a backslash, four controls have a letter, and other unprintable characters are written by code
point. A combining character is drawn onto the one before it, so only at the very start, where
there is none, is it written by code point as well.
-/

namespace RecallShell.Text

/-- A character by its code point, in hexadecimal without leading zeros. -/
def byCodePoint (c : Char) : List Char :=
  ['\\', 'u', '\x7b'] ++ Nat.toDigits 16 c.toNat ++ ['\x7d']

/-- A character made visible, other than at the start of a text. -/
def escapeInner (c : Char) : List Char :=
  match c with
  | '\x00' => ['\\', '0']
  | '\t' => ['\\', 't']
  | '\r' => ['\\', 'r']
  | '\n' => ['\\', 'n']
  | '\x27' => ['\\', '\x27']
  | '"' => ['\\', '"']
  | '\\' => ['\\', '\\']
  | c => if isPrintable c then [c] else byCodePoint c

/-- A character made visible at the start of a text. -/
def escapeFirst (c : Char) : List Char :=
  if isCombining c then byCodePoint c else escapeInner c

/-- A text with every character made visible. -/
def escapeChars : List Char → List Char
  | [] => []
  | c :: cs => escapeFirst c ++ cs.flatMap escapeInner

/-- A text with every character made visible. -/
def escape (s : String) : String := String.ofList (escapeChars s.toList)

end RecallShell.Text
