import RecallShell.Machine.Escapes

/-!
# Programs for records

A program for records has rules, each of which does something before the first line, with the lines
that its test holds of, or behind the last line. Rules compute with whole numbers and with texts, and
write values as lines or in a format. Functions can be called, but none can be defined. Whatever is
wrong with a program is told with its place, and reading goes on behind the statement.
-/

namespace RecallShell.Machine.Records

/-! ## Values -/

/-- A value. -/
inductive Value where
  /-- Nothing has been set. -/
  | unset
  /-- A number. -/
  | number (n : Int)
  /-- A text. -/
  | text (text : String)
  deriving DecidableEq, Repr, Inhabited

namespace Value

/-- The number that a value begins with. -/
def toNumber : Value → Int
  | .unset => 0
  | .number n => n
  | .text s =>
    let leading (cs : List Char) : Int := digitsValue 10 (cs.takeWhile Char.isDigit)
    match s.toList.dropWhile Char.isWhitespace with
    | '-' :: cs => -leading cs
    | '+' :: cs => leading cs
    | cs => leading cs

/-- The value as text. -/
def toText : Value → String
  | .unset => ""
  | .number n => toString n
  | .text s => s

/-- Whether it is neither zero nor empty. -/
def isTrue : Value → Bool
  | .unset => false
  | .number n => n != 0
  | .text s => !s.isEmpty

end Value

/-! ## Programs -/

/-- An operation on two numbers. -/
inductive Operation where
  /-- The sum. -/
  | plus
  /-- The difference. -/
  | minus
  /-- The product. -/
  | times
  deriving DecidableEq, Repr

/-- What an operation comes to. -/
def Operation.apply : Operation → Int → Int → Int
  | .plus => (· + ·)
  | .minus => (· - ·)
  | .times => (· * ·)

/-- Something that comes to a value. -/
inductive Expr where
  /-- A value. -/
  | value (value : Value)
  /-- What a variable holds. -/
  | variable (name : String)
  /-- A field of the line; the field zero is the whole line. -/
  | field (number : Expr)
  /-- A value put into a variable, perhaps computed with what is there. -/
  | assign (name : String) (operation : Option Operation) (value : Expr)
  /-- An operation on numbers. -/
  | operate (operation : Operation) (left right : Expr)
  deriving Repr, Inhabited

/-- Something that is done. -/
inductive Statement where
  /-- A value is computed. -/
  | compute (value : Expr)
  /-- Values are written as a line; without any, the line is. -/
  | print (values : List Expr)
  /-- Values are written in a format, which is the first of them. -/
  | printf (values : List Expr)
  /-- Nothing more is done with lines. -/
  | exit
  deriving Repr, Inhabited

/-- When something is done. -/
inductive Occasion where
  /-- Before the first line. -/
  | start
  /-- For every line. -/
  | every
  /-- For the lines of which something holds. -/
  | holding (test : Expr)
  /-- Behind the last line. -/
  | finish
  deriving Repr

/-- What is done, and when. -/
structure Rule where
  /-- When it is done. -/
  occasion : Occasion
  /-- What is done. -/
  body : List Statement
  deriving Repr

/-! ## Tokens -/

/-- A token. -/
inductive Token where
  /-- A number. -/
  | number (n : Nat)
  /-- A text in quotes. -/
  | text (text : String)
  /-- A name. -/
  | name (name : String)
  /-- The name of a function: one that a parenthesis has followed. -/
  | function (name : String)
  /-- A sign. -/
  | sign (sign : String)
  /-- The end of a statement. -/
  | stop (sign : Char)
  deriving DecidableEq, Repr, Inhabited

/-- How a complaint shows a token. -/
def Token.shown : Token → String
  | .number n => toString n
  | .text shown => s!"\"{shown}\""
  | .name shown | .function shown | .sign shown => shown
  | .stop '\n' => "end of line"
  | .stop c => c.toString

/-- The names that begin statements or rules. -/
def keywords : List String := ["BEGIN", "END", "exit", "print", "printf"]

/-- The signs of two characters. -/
def doubleSigns : List String := ["+=", "-=", "*="]

/-- A text up to the quote that closes it, and what follows. -/
def quoted : List Char → List Char × List Char
  | [] => ([], [])
  | '"' :: cs => ([], cs)
  | '\\' :: 'n' :: cs => let r := quoted cs; ('\n' :: r.1, r.2)
  | '\\' :: 't' :: cs => let r := quoted cs; ('\t' :: r.1, r.2)
  | '\\' :: c :: cs => let r := quoted cs; (c :: r.1, r.2)
  | c :: cs => let r := quoted cs; (c :: r.1, r.2)

/-- The tokens of a text with the numbers of their lines, where some names are those of functions. -/
def tokens : Nat → List String → Nat → List Char → List (Token × Nat)
  | 0, _, _, _ | _, _, _, [] => []
  | fuel + 1, functions, line, c :: cs =>
    let go := tokens fuel functions
    if c == '\n' || c == ';' then
      (.stop c, line) :: go (if c == '\n' then line + 1 else line) cs
    else if c.isWhitespace then go line cs
    else if c == '#' then go line (cs.dropWhile (· != '\n'))
    else if c == '"' then
      let (text, rest) := quoted cs
      (.text (String.ofList text), line) :: go line rest
    else if c.isDigit then
      let digits := (c :: cs).takeWhile Char.isDigit
      (.number (digitsValue 10 digits), line) :: go line ((c :: cs).drop digits.length)
    else if c.isAlpha || c == '_' then
      let letters := (c :: cs).takeWhile fun c => c.isAlphanum || c == '_'
      let (name, rest) := (String.ofList letters, (c :: cs).drop letters.length)
      if !keywords.contains name && (rest.head? == some '(' || functions.contains name) then
        (.function name, line) :: tokens fuel (name :: functions) line rest
      else (.name name, line) :: go line rest
    else
      let double := String.ofList (c :: cs.take 1)
      if doubleSigns.contains double then (.sign double, line) :: go line (cs.drop 1)
      else (.sign c.toString, line) :: go line cs

/-! ## Reading programs -/

/-- A program that is being read. -/
structure Reading where
  /-- The tokens that are left, with the numbers of their lines. -/
  tokens : List (Token × Nat)
  /-- The number of the line that reading has come to. -/
  line : Nat := 1
  /-- What has been found wrong and where, the newest first. -/
  complaints : List (Nat × String) := []
  /-- The functions that are called. -/
  calls : List String := []

/-- A reader of programs. -/
abbrev Reader := ExceptT Unit (StateM Reading)

namespace Reader

/-- The next token. -/
def peek? : Reader (Option Token) := do return (← get).tokens.head?.map (·.1)

/-- Leaves the next token behind. -/
def advance : Reader Unit :=
  modify fun r => { r with tokens := r.tokens.drop 1, line := (r.tokens.head?.map (·.2)).getD r.line }

/-- The next token cannot be where it is. -/
def fail {α : Type} : Reader α := do
  let shown := ((← peek?).map Token.shown).getD "end of file"
  modify fun r =>
    let line := (r.tokens.head?.map (·.2)).getD r.line
    { r with complaints := (line, s!"syntax error at or near {shown}") :: r.complaints }
  throw ()

/-- Whether some token comes next, which is then taken. -/
def takes (token : Token) : Reader Bool := do
  if (← peek?) == some token then
    advance
    return true
  else return false

/-- Takes a sign. -/
def expect (sign : String) : Reader Unit := do if !(← takes (.sign sign)) then fail

/-- Leaves the ends of statements behind. -/
def skipStops : Nat → Reader Unit
  | 0 => return
  | turns + 1 => do
    if let some (.stop _) := ← peek? then
      advance
      skipStops turns

/-! ### Expressions -/

/-- Reads on as long as an operation comes next. -/
def chain (operations : List (String × Operation)) (operand : Reader Expr) : Nat → Expr → Reader Expr
  | 0, left => return left
  | turns + 1, left => do
    match ← peek? with
    | some (.sign sign) =>
      match operations.lookup sign with
      | none => return left
      | some operation => do
        advance
        chain operations operand turns (.operate operation left (← operand))
    | _ => return left

/-- The signs that put a value into a variable. -/
def assignments : List (String × Option Operation) :=
  [("=", none), ("+=", some .plus), ("-=", some .minus), ("*=", some .times)]

/-- Reads an expression; expressions are in parentheses up to some depth. -/
def expression : Nat → Reader Expr
  | 0 => fail
  | depth + 1 => do
    let turns := (← get).tokens.length
    let rec single : Nat → Reader Expr
      | 0 => fail
      | turns + 1 => do
        match ← peek? with
        | some (.number n) => do
          advance
          return .value (.number n)
        | some (.text s) => do
          advance
          return .value (.text s)
        | some (.name name) => do
          if keywords.contains name then fail
          advance
          return .variable name
        | some (.function name) => do
          advance
          expect "("
          expect ")"
          modify fun r => { r with calls := name :: r.calls }
          return .value .unset
        | some (.sign "$") => do
          advance
          return .field (← single turns)
        | some (.sign "(") => do
          advance
          let inside ← expression depth
          expect ")"
          return inside
        | _ => fail
    let product : Reader Expr := do chain [("*", .times)] (single turns) turns (← single turns)
    let sum ← chain [("+", .plus), ("-", .minus)] product turns (← product)
    match sum, ← peek? with
    | .variable name, some (.sign sign) =>
      match assignments.lookup sign with
      | some operation => do
        advance
        return .assign name operation (← expression depth)
      | none => return sum
    | _, _ => return sum

/-- Reads an expression. -/
def value : Reader Expr := do expression ((← get).tokens.length + 1)

/-- Reads expressions with commas between them. -/
def values : Nat → Reader (List Expr)
  | 0 => fail
  | turns + 1 => do
    let first ← value
    if ← takes (.sign ",") then return first :: (← values turns) else return [first]

/-! ### Statements -/

/-- Whether a statement ends here. -/
def isAtEnd : Reader Bool := do
  return match ← peek? with
    | some (.stop _) | some (.sign "\x7d") => true
    | _ => false

/-- Reads a statement. -/
def statement : Reader Statement := do
  let turns := (← get).tokens.length + 1
  let statement : Statement ←
    if ← takes (.name "print") then
      if ← isAtEnd then pure (.print []) else do pure (.print (← values turns))
    else if ← takes (.name "printf") then do pure (.printf (← values turns))
    else if ← takes (.name "exit") then pure .exit
    else do pure (.compute (← value))
  if !(← isAtEnd) then fail
  return statement

/-- Goes on behind a statement that is not well formed. -/
def recover : Nat → Reader Unit
  | 0 => return
  | turns + 1 => do
    if !(← isAtEnd) then
      advance
      recover turns

/-- Reads statements up to the brace that closes them. -/
def block : Nat → Reader (List Statement)
  | 0 => fail
  | turns + 1 => do
    skipStops (turns + 1)
    if ← takes (.sign "\x7d") then return []
    if (← peek?).isNone then fail
    let read ← tryCatch (some <$> statement) fun _ => do
      recover (turns + 1)
      return none
    return read.toList ++ (← block turns)

/-! ### Rules -/

/-- Reads a rule. -/
def rule : Reader Rule := do
  let turns := (← get).tokens.length + 1
  if ← takes (.sign "\x7b") then return ⟨.every, ← block turns⟩
  let occasion : Occasion ←
    if ← takes (.name "BEGIN") then pure .start
    else if ← takes (.name "END") then pure .finish
    else do pure (.holding (← value))
  if ← takes (.sign "\x7b") then return ⟨occasion, ← block turns⟩
  match occasion with
  | .holding _ =>
    if (← peek?).isSome && !(← isAtEnd) then fail
    return ⟨occasion, [.print []]⟩
  | _ => fail

/-- Reads rules to the end. -/
def rules : Nat → Reader (List Rule)
  | 0 => return []
  | turns + 1 => do
    skipStops (turns + 1)
    if (← peek?).isNone then return []
    let read ← tryCatch (some <$> rule) fun _ => do
      recover (turns + 1)
      discard <| takes (.sign "\x7d")
      return none
    return read.toList ++ (← rules turns)

end Reader

/-- The rules of a program, or what is wrong with it and where. -/
def readRules (text : String) : Except (List (Nat × String)) (List Rule) :=
  let tokens := tokens (text.length + 1) [] 1 text.toList
  match (Reader.rules (tokens.length + 1)).run.run { tokens } with
  | (.error (), r) => .error r.complaints.reverse
  | (.ok rules, r) =>
    let undefined := r.calls.reverse.eraseDups.map fun name =>
      (r.line, s!"function {name} never defined")
    match r.complaints.reverse, undefined with
    | [], [] => .ok rules
    | [], undefined => .error undefined
    | complaints, _ => .error complaints

end RecallShell.Machine.Records
