import RecallShell.Machine.Shell.Token

/-!
# Reading shell scripts

Tokens are put together to statements. A script is read one complete command at a time, so that
what stands in front of a mistake is still carried out. Lists of statements end at a closing keyword
or parenthesis, which the statement around them takes. Readers of what may nest are handed in, and
the depth of nesting is bounded by the length of the script.
-/

namespace RecallShell.Machine

open Reader

/-- Commands whose failure ends a script; they give their names to nothing else. -/
def specialCommands : List String :=
  [".", ":", "break", "continue", "eval", "exec", "exit", "export", "local", "readonly", "return",
    "set", "shift", "times", "trap", "unset"]

/-- The readers of what may stand inside a statement. -/
structure Inner where
  /-- Reads a list of statements, which may be empty or not. -/
  list : Bool → Reader (List Statement)
  /-- Reads a single command. -/
  command : Unit → Reader Statement

/-! ## Settings -/

/-- The characters of a name at the start of some parts, and what follows it. -/
def nameAt : List Atom → List Char × List Atom
  | .char c false :: atoms =>
    if isNameChar c then let r := nameAt atoms; (c :: r.1, r.2) else ([], .char c false :: atoms)
  | atoms => ([], atoms)

/-- The variable that a word sets and what it is set to. -/
def setting? (w : Word) : Option Setting :=
  match nameAt w.atoms with
  | (name, .char '=' false :: value) =>
    if isName name then some (.of (String.ofList name) (Word.ofAtoms value)) else none
  | _ => none

/-- A command taken apart, the last part first. -/
structure SimpleParts where
  /-- The variables set for it. -/
  settings : List Setting
  /-- Its words. -/
  words : List Word
  /-- Its redirections. -/
  redirects : List Redirect

namespace SimpleParts

/-- Nothing read yet. -/
def empty : SimpleParts := ⟨[], [], []⟩

/-- The command that some parts make up. -/
def statement (parts : SimpleParts) (line : Nat) : Statement :=
  .simple line parts.settings.reverse parts.words.reverse parts.redirects.reverse

/-- Whether nothing but one word has been read. -/
def onlyWord? (parts : SimpleParts) : Option Word :=
  match parts.settings, parts.words, parts.redirects with
  | [], [w], [] => some w
  | _, _, _ => none

end SimpleParts

namespace Inner

variable (inner : Inner)

/-- Reads a token without regard to keywords. -/
def plainToken : Reader Token := readToken inner.list false false

/-- Reads a token that begins a command, past line ends. -/
def firstToken : Reader Token := readToken inner.list true true

/-- Takes a keyword or an operator that must come next. -/
def expect (wanted : Token) : Reader Unit := do
  let token ← readToken inner.list false true
  match token, wanted with
  | .keyword a, .keyword b => if a == b then return () else unexpected token (some wanted)
  | .operator a, .operator b => if a == b then return () else unexpected token (some wanted)
  | _, _ => unexpected token (some wanted)

/-! ## Redirections -/

/-- Whether a word can only name a descriptor. -/
def namesDescriptor (text : String) : Bool :=
  text == "-" || (text.length == 1 && text.toList.all Char.isDigit)

/-- Reads the word that ends a document. -/
def delimiterWord : Reader Token := do
  discard <| takeWhile fun c => c == ' ' || c == '\t'
  match ← peek with
  | some c =>
    if endsWord c then inner.plainToken
    else
      return .word
        (← pieces inner.list (freshToken inner.list (← bound)) (← bound) .delimiter .empty)
  | none => inner.plainToken

/-- Reads what a redirection leads to. -/
def target (descriptor : Nat) (kind : Redirection) (withoutTabs : Bool) : Reader Redirect := do
  match ← (if kind == .document then inner.delimiterWord else inner.plainToken) with
  | .word w =>
    match kind with
    | .document => return .of descriptor kind (← documentWord inner.list w withoutTabs)
    | .duplicate =>
      if (w.plain?.map namesDescriptor).getD true then return .of descriptor kind w
      else fault "Bad fd number"
    | _ => return .of descriptor kind w
  | token => unexpected token none

/-- Reads the redirections behind a statement. -/
def redirects : Nat → Reader (List Redirect)
  | 0 => return []
  | fuel + 1 => do
    match ← readToken inner.list false true with
    | .redirect descriptor kind withoutTabs =>
      return (← inner.target descriptor kind withoutTabs) :: (← redirects fuel)
    | token => do
      push token
      return []

/-! ## Commands -/

/-- Reads a function, behind its name and the opening parenthesis. -/
def function (w : Word) : Reader Statement := do
  let line := (← get).line
  let token ← inner.plainToken
  if !token.isOperator ")" then unexpected token (some (.operator ")"))
  match w.plain? with
  | some name =>
    if !isName name.toList || specialCommands.contains name then fault "Bad function name"
    push (← inner.firstToken)
    return .define line name (← inner.command ())
  | none => fault "Bad function name"

/-- Reads words up to the closing parenthesis. -/
def listWords : Nat → Reader (List Word)
  | 0 => return []
  | fuel + 1 => do
    match ← readToken inner.list true false with
    | .word w => return w :: (← listWords fuel)
    | .operator ")" => return []
    | token => unexpected token (some (.operator ")"))

/-- What a variable is set to, which may be a list that follows in parentheses. -/
def withList : Setting → Reader Setting
  | .of name [] => do
    if !(← isRich) || (← peek) != some '(' then return .of name []
    advance
    return .list name (← inner.listWords (← bound))
  | setting => return setting

/-- Reads the rest of a command on a line behind the parts read before. -/
def simpleRest (line : Nat) : Nat → SimpleParts → Reader Statement
  | 0, parts => return parts.statement line
  | fuel + 1, parts => do
    match ← inner.plainToken with
    | .word w =>
      match if parts.words.isEmpty then setting? w else none with
      | some setting => do
        let setting ← inner.withList setting
        simpleRest line fuel { parts with settings := setting :: parts.settings }
      | none => simpleRest line fuel { parts with words := w :: parts.words }
    | .redirect descriptor kind withoutTabs => do
      let redirect ← inner.target descriptor kind withoutTabs
      simpleRest line fuel { parts with redirects := redirect :: parts.redirects }
    | token =>
      match token.isOperator "(", parts.onlyWord? with
      | true, some w => inner.function w
      | _, _ => do
        push token
        return parts.statement line

/-- Reads the tests and branches of a conditional, behind its first keyword. -/
def branches : Nat → Reader Statement
  | 0 => fault "too deep"
  | fuel + 1 => do
    let test ← inner.list false
    inner.expect (.keyword "then")
    let body ← inner.list false
    match ← readToken inner.list false true with
    | .keyword "elif" => return .branch test body [← branches fuel]
    | .keyword "else" => do
      let other ← inner.list false
      inner.expect (.keyword "fi")
      return .branch test body other
    | token => do
      push token
      inner.expect (.keyword "fi")
      return .branch test body []

/-- Reads the statements between the keywords of a loop. -/
def loopBody : Reader (List Statement) := do
  let body ← inner.list false
  inner.expect (.keyword "done")
  return body

/-- Reads words up to the end of the line they stand on. -/
def wordsOnLine : Nat → Reader (List Word)
  | 0 => return []
  | fuel + 1 => do
    match ← inner.plainToken with
    | .word w => return w :: (← wordsOnLine fuel)
    | .newline | .operator ";" => return []
    | token => unexpected token none

/-- Reads the statements of a loop with the keywords for them. -/
def delimitedBody : Reader (List Statement) := do
  let token ← inner.firstToken
  if token.isKeyword "do" then inner.loopBody else unexpected token (some (.keyword "do"))

/-- Reads a loop that counts, behind its first keyword. -/
def countedLoop (line : Nat) : Reader Statement := do
  advanceBy 2
  let parts ← pieces inner.list (freshToken inner.list (← bound)) (← bound) (.arithmetic 0) .empty
  let isEnd (c : Char) (_ : Bool) : Bool := c == ';'
  match Word.cut? isEnd parts with
  | some (first, rest) =>
    match Word.cut? isEnd rest with
    | some (test, step) =>
      let token ← inner.firstToken
      if !token.isOperator ";" then push token
      return .counted line first test step (← inner.delimitedBody)
    | none => fault "Bad for loop variable"
  | none => fault "Bad for loop variable"

/-- Reads a loop over words, behind its first keyword. -/
def loopOverWords (line : Nat) : Reader Statement := do
  let name? : Option String := match ← inner.plainToken with
    | .word w => w.plain?.filter fun name => isName name.toList
    | _ => none
  match name? with
  | none => fault "Bad for loop variable"
  | some name =>
    let token ← inner.firstToken
    let words ← if token.isKeyword "in" then inner.wordsOnLine (← bound)
      else do
        if !token.isOperator ";" then push token
        pure [[.parameter "@" none .value true]]
    return .each line name words (← inner.delimitedBody)

/-- Reads the patterns of a choice, of which the first has been read, up to the parenthesis. -/
def patterns : Nat → Token → Reader (List Word)
  | fuel + 1, .word w => do
    match ← inner.plainToken with
    | .operator "|" => return w :: (← patterns fuel (← inner.plainToken))
    | .operator ")" => return [w]
    | token => unexpected token (some (.operator ")"))
  | fuel + 1, .keyword text =>
    -- a keyword means nothing among patterns
    patterns fuel (.word [.text text.toList false])
  | _, token => unexpected token (some (.operator ")"))

/-- Reads the choices of a selection, up to its last keyword. -/
def choices : Nat → Reader (List Choice)
  | 0 => return []
  | fuel + 1 => do
    match ← readToken inner.list true true with
    | .keyword "esac" => return []
    | first =>
      let first ← if first.isOperator "(" then inner.plainToken else pure first
      let patterns ← inner.patterns (← bound) first
      let body ← inner.list true
      match ← readToken inner.list true true with
      | .keyword "esac" => return [.of patterns body]
      | .operator ";;" => return .of patterns body :: (← choices fuel)
      | token => unexpected token (some (.operator ";;"))

/-- Reads a selection, behind its first keyword. -/
def selection (line : Nat) : Reader Statement := do
  match ← inner.plainToken with
  | .word w =>
    let token ← inner.firstToken
    if !token.isKeyword "in" then unexpected token (some (.keyword "in"))
    return .select line w (← inner.choices (← bound))
  | token => unexpected token (some (.word []))

/-- Reads a match up to its last keyword. The characters of an expression stand for themselves. -/
def matching (line : Nat) : Reader Statement := do
  let wordOf (token : Token) : Reader Word := match token with
    | .word w => return w
    | token => unexpected token none
  let w ← wordOf (← inner.plainToken)
  let sign ← wordOf (← inner.plainToken)
  let byExpression := sign.plain? == some "=~"
  if !byExpression && sign.plain? != some "==" then unexpected (.word sign) none
  let pattern ← if !byExpression then do wordOf (← inner.plainToken)
    else do
      discard <| takeWhile (· == ' ')
      pure [.text (← takeWhile fun c => c != ' ' && c != '\n') true]
  inner.expect (.keyword "]]")
  return .matched line byExpression w pattern

/-! ## Compound commands -/

/-- Reads what follows a statement that may be redirected as a whole. -/
def redirected (line : Nat) (body : Statement) : Reader Statement := do
  let redirects ← inner.redirects (← bound)
  return if redirects.isEmpty then body else .redirected line body redirects

/-- Reads a single command that begins with a token. -/
def commandFrom (token : Token) : Reader Statement := do
  let line := (← get).line
  match token with
  | .keyword "if" => inner.redirected line (← inner.branches (← bound))
  | .keyword "while" | .keyword "until" => do
    let test ← inner.list false
    inner.expect (.keyword "do")
    inner.redirected line (.loop (token.isKeyword "while") test (← inner.loopBody))
  | .keyword "for" => do
    discard <| takeWhile (· == ' ')
    let counts := (← isRich) && (← ahead 2) == ['(', '(']
    inner.redirected line (← if counts then inner.countedLoop line else inner.loopOverWords line)
  | .keyword "[[" => do inner.redirected line (← inner.matching line)
  | .keyword "case" => inner.redirected line (← inner.selection line)
  | .keyword "\x7b" => do
    let body ← inner.list false
    inner.expect (.keyword "\x7d")
    inner.redirected line (.group body)
  | .operator "(" => do
    let body ← inner.list false
    inner.expect (.operator ")")
    inner.redirected line (.subshell line body)
  | .word _ | .redirect .. => do
    push token
    inner.simpleRest line (← bound) .empty
  | token => unexpected token none

/-- Reads the commands behind a first one that pipes join to it. -/
def piped : Nat → Statement → Reader (List Statement)
  | 0, s => return [s]
  | fuel + 1, s => do
    match ← inner.plainToken with
    | .operator "|" => do
      let next ← inner.commandFrom (← inner.firstToken)
      return s :: (← piped fuel next)
    | token => do
      push token
      return [s]

/-- Reads commands joined by pipes, which begin with a token. -/
def pipelineFrom (token : Token) : Reader Statement := do
  let negated := token.isKeyword "!"
  let token ← if negated then readToken inner.list false true else pure token
  let parts ← inner.piped (← bound) (← inner.commandFrom token)
  let pipeline := match parts with
    | [only] => only
    | parts => .piped parts
  return if negated then .negated pipeline else pipeline

/-- Reads the pipelines that conditions join to those before. -/
def chainRest : Nat → Statement → Reader Statement
  | 0, s => return s
  | fuel + 1, s => do
    match ← inner.plainToken with
    | .operator "&&" => chainRest fuel (.both s (← inner.pipelineFrom (← inner.firstToken)))
    | .operator "||" => chainRest fuel (.either s (← inner.pipelineFrom (← inner.firstToken)))
    | token => do
      push token
      return s

/-- Reads pipelines joined by conditions, which begin with a token. -/
def chainFrom (token : Token) : Reader Statement := do
  inner.chainRest (← bound) (← inner.pipelineFrom token)

/-- Reads a list of statements inside another one; `mayEnd` says whether it may end at once. -/
def listFrom : Nat → Bool → Reader (List Statement)
  | 0, _ => return []
  | fuel + 1, mayEnd => do
    let token ← inner.firstToken
    if (mayEnd && token.endsList) || token.isEnding then
      push token
      return []
    else
      let line := (← get).line
      let s ← inner.chainFrom token
      match ← inner.plainToken with
      | .operator "&" => return .detached line s :: (← listFrom fuel true)
      | .operator ";" | .newline => return s :: (← listFrom fuel true)
      | token => do
        push token
        return [s]

/-- Reads a complete command: the statements up to the end of a line. Says as well whether the
script ended there. -/
def completeFrom : Nat → Reader (List Statement × Bool)
  | 0 => return ([], true)
  | fuel + 1 => do
    match ← readToken inner.list false true with
    | .newline => return ([], false)
    | .ending => return ([], true)
    | token =>
      let line := (← get).line
      let s ← inner.chainFrom token
      let more (s : Statement) : Reader (List Statement × Bool) := do
        let r ← completeFrom fuel
        return (s :: r.1, r.2)
      match ← inner.plainToken with
      | .operator "&" => more (.detached line s)
      | .operator ";" => more s
      | .newline => return ([s], false)
      | .ending => return ([s], true)
      | token => unexpected token none

end Inner

/-- The readers of what may stand inside a statement, down to some depth. -/
def Inner.upTo : Nat → Inner
  | 0 => ⟨fun _ => fault "too deep", fun _ => fault "too deep"⟩
  | depth + 1 =>
    { list := fun mayEnd => do (Inner.upTo depth).listFrom (← bound) mayEnd
      command := fun _ => do
        let inner := Inner.upTo depth
        inner.commandFrom (← inner.firstToken) }

/-- What reading a complete command of a script comes to. -/
structure Complete where
  /-- The statements of the command. -/
  body : List Statement
  /-- What follows it. -/
  rest : List Char
  /-- The line that what follows begins on. -/
  line : Nat
  /-- Whether the script ends with the command. -/
  isLast : Bool
  deriving Inhabited

/-- Reads a complete command of a script. -/
def Complete.read (reading : Reading) : Except SyntaxFault Complete :=
  match ((Inner.upTo (reading.rest.length + 1000)).completeFrom (reading.rest.length + 2)).run
      reading with
  | .ok ((body, isLast), r) => .ok ⟨body, r.rest, r.line, isLast⟩
  | .error e => .error e

end RecallShell.Machine
