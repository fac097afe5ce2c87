import RecallShell.Machine.Shell.Statement

/-!
# Reading characters of scripts

A script is read character by character. A backslash at the end of a line joins it with the next one
wherever characters have their meaning. The script may be at hand only in part: a reader that comes
to the end of that part says so, and is begun anew with more.
-/

namespace RecallShell.Machine

/-- A token of a script. -/
inductive Token where
  /-- A word. -/
  | word (pieces : Word)
  /-- A word that is part of the language. -/
  | keyword (text : String)
  /-- An operator. -/
  | operator (symbol : String)
  /-- A redirection of a descriptor; tabs in front of the lines of a document can be left out. -/
  | redirect (descriptor : Nat) (kind : Redirection) (withoutTabs : Bool)
  /-- The end of a line. -/
  | newline
  /-- The end of the script. -/
  | ending

namespace Token

/-- The words that are part of a language. -/
def keywords (dialect : Dialect) : List String :=
  ["!", "case", "do", "done", "elif", "else", "esac", "fi", "for", "if", "in", "then", "until",
    "while", "\x7b", "\x7d"] ++ if dialect == .rich then ["[[", "]]"] else []

/-- The keywords and operators that end a list of statements. -/
def closers : List String :=
  [")", ";;", "do", "done", "elif", "else", "esac", "fi", "then", "\x7d"]

/-- How a token is named in messages. -/
def label : Token → String
  | .word _ => "word"
  | .keyword text => s!"\"{text}\""
  | .operator symbol => s!"\"{symbol}\""
  | .redirect .. => "redirection"
  | .newline => "newline"
  | .ending => "end of file"

/-- Whether a token ends a list of statements. -/
def endsList : Token → Bool
  | .keyword text => closers.contains text
  | .operator symbol => closers.contains symbol
  | .ending => true
  | _ => false

/-- Whether a token is a given keyword. -/
def isKeyword (text : String) : Token → Bool
  | .keyword k => k == text
  | _ => false

/-- Whether a token is a given operator. -/
def isOperator (symbol : String) : Token → Bool
  | .operator o => o == symbol
  | _ => false

/-- Whether a token is the end of the script. -/
def isEnding : Token → Bool
  | .ending => true
  | _ => false

/-- The keyword that a token is, if it is an unquoted word of that text. -/
def asKeyword (dialect : Dialect) : Token → Token
  | .word pieces =>
    match pieces.plain? with
    | some text => if (keywords dialect).contains text then .keyword text else .word pieces
    | none => .word pieces
  | token => token

end Token

/-- What is wrong with a script. -/
inductive SyntaxCause where
  /-- A token stands where it must not, or where another one is expected: the names of both. -/
  | unexpected (label : String) (expected : Option String)
  /-- Anything else. -/
  | other (text : String)
  /-- More of the script is needed. -/
  | needsMore
  deriving DecidableEq, Repr, Inhabited

/-- Why a script cannot be read on. -/
structure SyntaxFault where
  /-- The line that was being read. -/
  line : Nat
  /-- What is wrong. -/
  cause : SyntaxCause
  deriving DecidableEq, Repr, Inhabited

/-- A script that is being read. -/
structure Reading where
  /-- The characters still to be read. -/
  rest : List Char
  /-- The line that is being read. -/
  line : Nat
  /-- The language. -/
  dialect : Dialect
  /-- Whether more characters may follow those at hand. -/
  more : Bool
  /-- A token that was put back. -/
  pushed : Option Token
  /-- The number of lines that were cut out behind the line that is being read. -/
  owed : Nat

/-- A script to be read from the beginning of a line. -/
def Reading.ofChars (dialect : Dialect) (more : Bool) (cs : List Char) (line : Nat) : Reading :=
  ⟨cs, line, dialect, more, none, 0⟩

/-- A reader of scripts. -/
abbrev Reader := StateT Reading (Except SyntaxFault)

namespace Reader

/-- Gives up. -/
def giveUp {α : Type} (cause : SyntaxCause) : Reader α := do throw ⟨(← get).line, cause⟩

/-- Gives up with some text. -/
def fault {α : Type} (text : String) : Reader α := giveUp (.other s!"Syntax error: {text}")

/-- Whether the language is the rich one. -/
def isRich : Reader Bool := do return (← get).dialect == .rich

/-- Leaves the next character behind. -/
def advance : Reader Unit := modify fun r =>
  match r.rest with
  | [] => r
  | '\n' :: rest => { r with rest, line := r.line + 1 + r.owed, owed := 0 }
  | _ :: rest => { r with rest }

/-- The number of lines that are joined to what follows, and the characters behind them. -/
def joined (count : Nat) : List Char → Nat × List Char
  | '\\' :: '\n' :: cs => joined (count + 1) cs
  | cs => (count, cs)

/-- Leaves behind the ends of lines that are joined to the next one. -/
def settle : Reader Unit := modify fun r =>
  match joined 0 r.rest with
  | (0, _) => r
  | (count, rest) => { r with rest, line := r.line + count + r.owed, owed := 0 }

/-- The next character, whatever it is. -/
def peekRaw : Reader (Option Char) := do
  let r ← get
  if r.rest.isEmpty && r.more then giveUp .needsMore
  return r.rest.head?

/-- The next character that has a meaning. -/
def peek : Reader (Option Char) := do
  settle
  peekRaw

/-- The next characters, so many at most, without the ends of joined lines. -/
def charsAhead : Nat → List Char → List Char
  | 0, _ => []
  | count + 1, cs =>
    match (joined 0 cs).2 with
    | c :: rest => c :: charsAhead count rest
    | [] => []

/-- The next characters, so many at most. -/
def ahead (count : Nat) : Reader (List Char) := do
  let r ← get
  let found := charsAhead count r.rest
  if found.length < count && r.more && !found.contains '\n' then giveUp .needsMore
  return found

/-- Leaves some characters behind. -/
def advanceBy : Nat → Reader Unit
  | 0 => pure ()
  | n + 1 => do
    settle
    advance
    advanceBy n

/-- A number of steps that no reading of the rest exceeds. -/
def bound : Reader Nat := do return (← get).rest.length + 2

/-- Takes the characters at the start that are of a kind, so many at most. -/
def takeFrom (p : Char → Bool) : Nat → Reader (List Char)
  | 0 => return []
  | fuel + 1 => do
    match ← peek with
    | none => return []
    | some c =>
      if p c then
        advance
        return c :: (← takeFrom p fuel)
      else return []

/-- Takes the characters at the start that are of a kind. -/
def takeWhile (p : Char → Bool) : Reader (List Char) := do takeFrom p (← bound)

/-- Leaves so many characters behind, whatever they are. -/
def advanceRaw : Nat → Reader Unit
  | 0 => pure ()
  | n + 1 => do
    advance
    advanceRaw n

/-- Takes characters up to a given one, which is left behind. -/
def takeUntil (closing : Char) (complaint : String) : Reader (List Char) := do
  let r ← get
  let chars := r.rest.takeWhile (· != closing)
  if chars.length == r.rest.length then
    if r.more then giveUp .needsMore
    advanceRaw chars.length
    fault complaint
  advanceRaw (chars.length + 1)
  return chars

/-- Puts a token back, to be read again. -/
def push (token : Token) : Reader Unit := modify fun r => { r with pushed := some token }

/-- Takes the token that was put back, or else reads one. -/
def again (fresh : Reader Token) : Reader Token := do
  match (← get).pushed with
  | some token => do
    modify fun r => { r with pushed := none }
    return token
  | none => fresh

/-- Says that a token stands where it must not, or where another one is expected. -/
def unexpected {α : Type} (token : Token) (expected : Option Token) : Reader α := do
  giveUp (.unexpected token.label (expected.map Token.label))

end Reader

end RecallShell.Machine
