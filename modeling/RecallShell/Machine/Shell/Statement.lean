/-!
# Shell scripts

The statements that a script is made of. A word is put together from pieces, of which some are
replaced when the word is used: by the value of a parameter, by what statements write, or by the
value of an arithmetic expression. A piece that is quoted stands for its characters alone: it does
not fall apart at blanks and matches nothing but itself.
-/

namespace RecallShell.Machine

/-- The language of a shell. -/
inductive Dialect where
  /-- The plain one, of `sh`. -/
  | plain
  /-- The one of `bash`, with lists, more expansions and counted loops. -/
  | rich
  deriving DecidableEq, Repr, Inhabited

/-- What a parameter with a fallback does about it. -/
inductive Fallback where
  /-- The fallback stands in for a missing value. -/
  | standIn
  /-- The fallback becomes the value if that is missing. -/
  | assign
  /-- The fallback says what is wrong if the value is missing. -/
  | complain
  /-- The fallback stands in for a value that is not missing. -/
  | alternative
  deriving DecidableEq, Repr

/-- How a redirection changes where a command reads or writes. -/
inductive Redirection where
  /-- Reads from a file. -/
  | input
  /-- Writes a file anew. -/
  | output
  /-- Writes a file anew even where files are protected from that. -/
  | override
  /-- Reads from a file that is made if it is missing, and writes to it. -/
  | update
  /-- Writes behind what a file holds. -/
  | behind
  /-- Reads or writes where another descriptor does, or not at all. -/
  | duplicate
  /-- Reads lines of the script itself. -/
  | document
  deriving DecidableEq, Repr

mutual

/-- A part of a word. -/
inductive Piece where
  /-- Characters that stand for themselves. -/
  | text (chars : List Char) (quoted : Bool)
  /-- What is made of the value of a parameter, or of what an index picks from its list. -/
  | parameter (name : String) (index : Option String) (form : Form) (quoted : Bool)
  /-- What statements write, without the line ends behind it. -/
  | output (body : List Statement) (quoted : Bool)
  /-- The value of an arithmetic expression. -/
  | arithmetic (expression : List Piece) (quoted : Bool)

/-- What is made of the value of a parameter. -/
inductive Form where
  /-- The value itself. -/
  | value
  /-- The number of its characters. -/
  | length
  /-- The value or a fallback; an empty value can count as missing. -/
  | orElse (fallback : Fallback) (orEmpty : Bool) (word : List Piece)
  /-- What is left of the value when a match is taken from one end of it. -/
  | trimmed (atEnd longest : Bool) (pattern : List Piece)
  /-- The part of the value from some character on, and perhaps so many of them. -/
  | part (first : List Piece) (count : Option (List Piece))
  /-- The value with the first match of a pattern replaced. -/
  | replaced (pattern replacement : List Piece)
  /-- The value in capital letters. -/
  | upper
  /-- Nothing that is understood. -/
  | unknown

/-- A variable and what it is set to. -/
inductive Setting where
  /-- Sets a variable to what a word stands for. -/
  | of (name : String) (value : List Piece)
  /-- Sets a variable to a list of what words stand for. -/
  | list (name : String) (values : List (List Piece))

/-- A redirection of one descriptor. -/
inductive Redirect where
  /-- Redirects a descriptor to what a word names. -/
  | of (descriptor : Nat) (kind : Redirection) (target : List Piece)

/-- One way to go on for a word that is compared with patterns. -/
inductive Choice where
  /-- Runs statements if one of the patterns matches. -/
  | of (patterns : List (List Piece)) (body : List Statement)

/-- A statement of a script. -/
inductive Statement where
  /-- A command on a line, with the variables set for it. -/
  | simple (line : Nat) (settings : List Setting) (words : List (List Piece))
      (redirects : List Redirect)
  /-- Runs the second statement if the first one succeeds. -/
  | both (first second : Statement)
  /-- Runs the second statement if the first one fails. -/
  | either (first second : Statement)
  /-- Succeeds if the statement fails. -/
  | negated (body : Statement)
  /-- Hands the output of each statement to the next one. -/
  | piped (parts : List Statement)
  /-- Runs statements in turn. -/
  | group (body : List Statement)
  /-- Runs statements in a shell of their own. -/
  | subshell (line : Nat) (body : List Statement)
  /-- Runs one of two lists of statements. -/
  | branch (test body other : List Statement)
  /-- Runs statements as long as a test succeeds, or as long as it fails. -/
  | loop (whileSuccess : Bool) (test body : List Statement)
  /-- Runs statements once for each of some words. -/
  | each (line : Nat) (variableName : String) (words : List (List Piece)) (body : List Statement)
  /-- Runs statements as long as an expression is not zero, between two others. -/
  | counted (line : Nat) (first test step : List Piece) (body : List Statement)
  /-- Succeeds if a word matches a pattern, or an expression for texts. -/
  | matched (line : Nat) (byExpression : Bool) (word pattern : List Piece)
  /-- Runs the statements behind the first pattern that matches a word. -/
  | select (line : Nat) (subject : List Piece) (choices : List Choice)
  /-- Gives a statement a name to be run by. -/
  | define (line : Nat) (name : String) (body : Statement)
  /-- Redirects all that a statement does. -/
  | redirected (line : Nat) (body : Statement) (redirects : List Redirect)
  /-- Runs a statement without waiting for it. -/
  | detached (line : Nat) (body : Statement)

end

/-- A word of a script. -/
abbrev Word := List Piece

/-- The text of a word in which nothing is quoted or replaced. -/
def Word.plain? : Word → Option String
  | [.text chars false] => some (String.ofList chars)
  | _ => none

/-- Whether a character can begin a variable's name. -/
def beginsName (c : Char) : Bool := c.isAlpha || c == '_'

/-- Whether a character can stand in a variable's name. -/
def isNameChar (c : Char) : Bool := c.isAlphanum || c == '_'

/-- Whether characters make up a variable's name. -/
def isName (cs : List Char) : Bool := cs.head?.any beginsName && cs.all isNameChar

/-- A part of a word that cannot be taken apart. -/
inductive Atom where
  /-- A character, and whether it is quoted. -/
  | char (c : Char) (quoted : Bool)
  /-- A piece without characters of its own. -/
  | piece (piece : Piece)

namespace Word

/-- The parts of a word. Quotes around nothing are a part as well. -/
def atoms (w : Word) : List Atom :=
  w.flatMap fun
    | .text [] quoted => [.piece (.text [] quoted)]
    | .text chars quoted => chars.map fun c => .char c quoted
    | piece => [.piece piece]

/-- The word that parts make up. -/
def ofAtoms : List Atom → Word
  | [] => []
  | .piece p :: atoms => p :: ofAtoms atoms
  | .char c quoted :: atoms =>
    match ofAtoms atoms with
    | .text chars q :: rest =>
      if q == quoted && !chars.isEmpty then .text (c :: chars) q :: rest
      else .text [c] quoted :: .text chars q :: rest
    | rest => .text [c] quoted :: rest

/-- Cuts parts of a word at the first character of a kind, quoted or not. -/
def cutAtoms (isCut : Char → Bool → Bool) : List Atom → Option (List Atom × List Atom)
  | [] => none
  | .char c quoted :: atoms =>
    if isCut c quoted then some ([], atoms)
    else (cutAtoms isCut atoms).map fun r => (.char c quoted :: r.1, r.2)
  | atom :: atoms => (cutAtoms isCut atoms).map fun r => (atom :: r.1, r.2)

/-- Cuts a word at the first character of a kind, quoted or not. -/
def cut? (isCut : Char → Bool → Bool) (w : Word) : Option (Word × Word) :=
  (cutAtoms isCut w.atoms).map fun r => (ofAtoms r.1, ofAtoms r.2)

end Word

end RecallShell.Machine
