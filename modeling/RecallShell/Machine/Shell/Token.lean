import RecallShell.Machine.Escapes
import RecallShell.Machine.Shell.Reader

/-!
# Tokens of shell scripts

A script is read into words, operators and line ends. Quotes and backslashes take away the meaning of
the characters they cover; a dollar sign asks for a value. What stands in the parentheses of a
substitution is a list of statements itself, so its reader is handed in.
-/

namespace RecallShell.Machine

open Reader

/-- The pieces of a word gathered so far, the last one first. -/
structure Gathered where
  /-- The pieces that are complete. -/
  pieces : List Piece
  /-- The characters behind them, the last one first. -/
  chars : List Char
  /-- Whether those characters are quoted. -/
  quoted : Bool
  deriving Inhabited

namespace Gathered

/-- Nothing gathered yet. -/
def empty : Gathered := ⟨[], [], false⟩

/-- Makes a piece of the characters behind the pieces. -/
def closed (g : Gathered) : List Piece :=
  if g.chars.isEmpty then g.pieces else .text g.chars.reverse g.quoted :: g.pieces

/-- Gathers a piece. -/
def add (g : Gathered) (piece : Piece) : Gathered := ⟨piece :: g.closed, [], false⟩

/-- Gathers a character. -/
def addChar (g : Gathered) (c : Char) (quoted : Bool) : Gathered :=
  if g.quoted == quoted then { g with chars := c :: g.chars } else ⟨g.closed, [c], quoted⟩

/-- Gathers the pieces between double quotes; quotes around nothing count as well. -/
def addQuoted (g : Gathered) (inside : Word) : Gathered :=
  if inside.isEmpty then g.add (.text [] true) else ⟨inside.reverse ++ g.closed, [], false⟩

/-- The word that was gathered. -/
def word (g : Gathered) : Word := g.closed.reverse

end Gathered

/-- What characters of a word stand in. -/
inductive Surroundings where
  /-- Nothing in particular. -/
  | bare
  /-- The word that ends a document. -/
  | delimiter
  /-- Double quotes. -/
  | double
  /-- The braces of a parameter, themselves in double quotes or not. -/
  | brace (quoted : Bool)
  /-- A document of lines in the script. -/
  | document
  /-- An arithmetic expression, in so many parentheses of its own. -/
  | arithmetic (depth : Nat)
  deriving DecidableEq, Repr

namespace Surroundings

/-- Whether characters count as quoted. -/
def quotes : Surroundings → Bool
  | .bare | .delimiter | .brace false => false
  | _ => true

/-- Whether single quotes have their meaning. -/
def knowsSingle (s : Surroundings) : Bool := !s.quotes

/-- Whether double quotes begin something. -/
def knowsDouble : Surroundings → Bool
  | .bare | .delimiter | .brace _ => true
  | _ => false

/-- What is missing when the script ends here. -/
def complaint? : Surroundings → Option String
  | .bare | .delimiter | .document => none
  | .double => some "Unterminated quoted string"
  | .brace _ => some "Missing '\x7d'"
  | .arithmetic _ => some "Missing '))'"

/-- Whether a backslash takes away the meaning of a character where characters are quoted. -/
def protects (s : Surroundings) (c : Char) : Bool :=
  c == '$' || c == '\\' || c.toNat == 0x60
    || (c == '"' && s.quotes && s != .document)
    || (c == '\x7d' && match s with | .brace _ => true | _ => false)

end Surroundings

/-- Whether an unquoted character ends a word. -/
def endsWord (c : Char) : Bool := " \t\n;&|()<>".toList.contains c

/-- The parameters whose names are a single special character. -/
def specialParameters : List Char := "#?$!@*-".toList

/-- The name of a parameter at the start; only one digit of a number if `short`. -/
def parameterName (short : Bool) : Reader (Option String) := do
  match ← peek with
  | none => return none
  | some c =>
    if beginsName c then return some (String.ofList (← takeWhile isNameChar))
    else if c.isDigit && !short then return some (String.ofList (← takeWhile Char.isDigit))
    else if c.isDigit || specialParameters.contains c then
      advance
      return some c.toString
    else return none

/-! ## Parameters in braces -/

section

variable (sub : Surroundings → Reader Word)

/-- What the rich language makes of a parameter behind a sign of its own, up to the closing brace. -/
def richForm (sign : Char) : Reader Form := do
  let isCut (c : Char) (quoted : Bool) : Bool := c == sign && !quoted
  advanceBy 1
  let inside ← sub (.brace false)
  let (before, behind?) := match Word.cut? isCut inside with
    | some (before, behind) => (before, some behind)
    | none => (inside, none)
  return match sign, inside.plain? with
    | ':', _ => .part before behind?
    | '/', _ => .replaced before (behind?.getD [])
    | '^', some "^" => .upper
    | _, _ => .unknown

/-- What is made of a parameter, read behind its name up to the closing brace. -/
def form (quoted : Bool) : Reader Form := do
  let rich ← isRich
  let colon := match ← ahead 2 with
    | ':' :: c :: _ => !rich || "-=?+".toList.contains c
    | _ => false
  if colon then advanceBy 1
  let orElse (fallback : Fallback) : Reader Form := do
    advanceBy 1
    return .orElse fallback colon (← sub (.brace quoted))
  let trimmed (mark : Char) : Reader Form := do
    advanceBy 1
    let longest := (← peek) == some mark
    if longest then advance
    return .trimmed (mark == '%') longest (← sub (.brace false))
  match ← peek, colon with
  | some '-', _ => orElse .standIn
  | some '=', _ => orElse .assign
  | some '?', _ => orElse .complain
  | some '+', _ => orElse .alternative
  | some '#', false => trimmed '#'
  | some '%', false => trimmed '%'
  | some '\x7d', false => do
    advance
    return .value
  | sign?, _ =>
    match if rich then sign? else none with
    | some sign => richForm sub sign
    | none => do
      discard <| sub (.brace quoted)
      return .unknown

/-- Whether a parameter's length is asked for: a name and a closing brace follow the sign. -/
def asksLength : List Char → Bool
  | '#' :: '\x7d' :: _ => false
  | '#' :: c :: rest =>
    if isNameChar c then true
    else specialParameters.contains c && rest.head? == some '\x7d'
  | _ => false

/-- A parameter in braces, read behind the opening one. -/
def bracedParameter (quoted : Bool) : Reader Piece := do
  let length := asksLength (← ahead 3)
  if length then advanceBy 1
  match ← parameterName false with
  | none => do
    discard <| sub (.brace quoted)
    return .parameter "" none .unknown quoted
  | some name =>
    let index ← if (← isRich) && (← peek) == some '[' then do
        advance
        pure (some (String.ofList (← takeUntil ']' "Missing ']'")))
      else pure none
    let made ← form sub quoted
    return match length, made with
      | true, .value => .parameter name index .length quoted
      | true, _ => .parameter name index .unknown quoted
      | false, made => .parameter name index made quoted

end

/-! ## Quotes -/

/-- The characters between backquotes, with the backslashes taken away that protect characters. -/
def backquoted (quoted : Bool) : List Char → List Char
  | '\\' :: '\n' :: cs => backquoted quoted cs
  | '\\' :: c :: cs =>
    if c == '\\' || c == '$' || c.toNat == 0x60 || (quoted && c == '"') then c :: backquoted quoted cs
    else '\\' :: c :: backquoted quoted cs
  | c :: cs => c :: backquoted quoted cs
  | [] => []

/-- The characters up to a backquote, with the backslashes in them, and whether there is one. -/
def upToBackquote : List Char → List Char × Bool
  | '\\' :: c :: cs => let r := upToBackquote cs; ('\\' :: c :: r.1, r.2)
  | c :: cs =>
    if c.toNat == 0x60 then ([], true) else let r := upToBackquote cs; (c :: r.1, r.2)
  | [] => ([], false)

section

variable (inner : Bool → Reader (List Statement))

/-- The statements between backquotes, read behind the opening one. -/
def backquotedOutput (quoted : Bool) : Reader Piece := do
  let r ← get
  let (chars, closed) := upToBackquote r.rest
  if !closed && r.more then giveUp .needsMore
  advanceRaw chars.length
  if !closed then fault "EOF in backquote substitution"
  advance
  let cs := backquoted quoted chars
  match (inner true).run (Reading.ofChars r.dialect false cs r.line) with
  | .ok (body, _) => return .output body quoted
  | .error e => throw e

/-- The statements in parentheses, read behind the opening one, up to the closing one. -/
def inParentheses (token : Reader Token) : Reader (List Statement) := do
  let body ← inner true
  let closing ← again token
  if closing.isOperator ")" then return body
  else unexpected closing (some (.operator ")"))

/-- What a dollar sign asks for, read behind it; nothing if it stands for itself. -/
def dollar (sub : Surroundings → Reader Word) (token : Reader Token) (s : Surroundings) :
    Reader (Option Piece) := do
  let quoted := s.quotes
  if s == .delimiter then return none
  match ← peek with
  | some '(' =>
    if (← ahead 2) == ['(', '('] then
      advanceBy 2
      return some (.arithmetic (← sub (.arithmetic 0)) quoted)
    else
      advanceBy 1
      return some (.output (← inParentheses inner token) quoted)
  | some '\x7b' => do
    advance
    return some (← bracedParameter sub quoted)
  | some '\x27' =>
    if quoted || !(← isRich) then return none
    advance
    let chars ← takeUntil '\x27' "Unterminated quoted string"
    return some (.text (formatEscapes.unescapeChars (chars.length + 1) chars).1 true)
  | _ => return (← parameterName true).map fun name => .parameter name none .value quoted

/-- The pieces of a word up to where its surroundings end, behind those gathered before; closing
quotes, braces and parentheses are left behind. -/
def pieces (token : Reader Token) : Nat → Surroundings → Gathered → Reader Word
  | 0, _, g => return g.word
  | fuel + 1, s, g => do
    match ← (if s == .delimiter then peekRaw else peek) with
    | none =>
      match s.complaint? with
      | some text => fault text
      | none => return g.word
    | some c =>
      if (s == .bare || s == .delimiter) && endsWord c then return g.word
      advance
      if c.toNat == 0x60 && s != .delimiter then
        pieces token fuel s (g.add (← backquotedOutput inner s.quotes))
      else
        match c, s with
        | '\\', _ =>
          match ← peekRaw with
          | none => pieces token fuel s (g.addChar '\\' true)
          | some d => do
            advance
            if !s.quotes || s.protects d then pieces token fuel s (g.addChar d true)
            else pieces token fuel s ((g.addChar '\\' true).addChar d true)
        | '$', _ => do
          match ← dollar inner (fun s => pieces token fuel s .empty) token s with
          | some piece => pieces token fuel s (g.add piece)
          | none => pieces token fuel s (g.addChar '$' s.quotes)
        | '"', .double => return g.word
        | '\x7d', .brace _ => return g.word
        | ')', .arithmetic 0 =>
          if (← peek) == some ')' then
            advance
            return g.word
          else pieces token fuel s (g.addChar ')' true)
        | ')', .arithmetic (depth + 1) => pieces token fuel (.arithmetic depth) (g.addChar ')' true)
        | '(', .arithmetic depth => pieces token fuel (.arithmetic (depth + 1)) (g.addChar '(' true)
        | '\x27', s =>
          if s.knowsSingle then
            let chars ← takeUntil '\x27' "Unterminated quoted string"
            pieces token fuel s (g.add (.text chars true))
          else pieces token fuel s (g.addChar '\x27' s.quotes)
        | '"', s =>
          if s.knowsDouble then
            pieces token fuel s (g.addQuoted (← pieces token fuel .double .empty))
          else pieces token fuel s (g.addChar '"' s.quotes)
        | c, s => pieces token fuel s (g.addChar c s.quotes)

/-- The redirection at the start of some characters, and how many they are. -/
def redirection? : List Char → Option (Token × Nat)
  | '>' :: '>' :: _ => some (.redirect 1 .behind false, 2)
  | '>' :: '&' :: _ => some (.redirect 1 .duplicate false, 2)
  | '>' :: '|' :: _ => some (.redirect 1 .override false, 2)
  | '>' :: _ => some (.redirect 1 .output false, 1)
  | '<' :: '<' :: '-' :: _ => some (.redirect 0 .document true, 3)
  | '<' :: '<' :: _ => some (.redirect 0 .document false, 2)
  | '<' :: '&' :: _ => some (.redirect 0 .duplicate false, 2)
  | '<' :: '>' :: _ => some (.redirect 0 .update false, 2)
  | '<' :: _ => some (.redirect 0 .input false, 1)
  | _ => none

/-- The redirection at the start of some characters, behind the digit of a descriptor or not. -/
def placedRedirection? (cs : List Char) : Option (Token × Nat) :=
  match cs with
  | c :: rest =>
    if c.isDigit then
      match redirection? rest with
      | some (.redirect _ kind withoutTabs, n) =>
        some (.redirect (c.toNat - '0'.toNat) kind withoutTabs, n + 1)
      | _ => none
    else redirection? cs
  | [] => none

/-- The operators, the longer ones first. -/
def operators : List String := ["&&", "||", ";;", "&", "|", ";", "(", ")"]

/-- The operator at the start of some characters. -/
def operator? (cs : List Char) : Option String :=
  operators.find? fun symbol => symbol.toList.isPrefixOf cs

/-- Reads a token from the characters. -/
def freshToken : Nat → Reader Token
  | 0 => return .ending
  | fuel + 1 => do
    match ← peek with
    | none => return .ending
    | some c =>
      if c == '\n' then
        advance
        return .newline
      else if c == ' ' || c == '\t' then
        advance
        freshToken fuel
      else if c == '#' then
        let r ← get
        let chars := r.rest.takeWhile (· != '\n')
        if chars.length == r.rest.length && r.more then giveUp .needsMore
        advanceRaw chars.length
        freshToken fuel
      else
        let next ← if endsWord c then ahead 3 else if c.isDigit then ahead 4 else pure [c]
        match placedRedirection? next, operator? next with
        | some (token, n), _ => do
          advanceBy n
          return token
        | none, some symbol => do
          advanceBy symbol.length
          return .operator symbol
        | none, none =>
          return .word (← pieces inner (freshToken fuel) (← bound) .bare .empty)

/-- Leaves line ends behind and reads what follows them. -/
def pastNewlines : Nat → Reader Token
  | 0 => return .ending
  | fuel + 1 => do
    match ← freshToken inner (← bound) with
    | .newline => pastNewlines fuel
    | token => return token

/-- Reads a token: past line ends, and as a keyword, if asked to. -/
def readToken (overNewlines keywords : Bool) : Reader Token := do
  let fresh : Reader Token := do
    if overNewlines then pastNewlines inner (← bound) else freshToken inner (← bound)
  let token ← match (← get).pushed with
    | some token => do
      modify fun r => { r with pushed := none }
      match token, overNewlines with
      | .newline, true => fresh
      | token, _ => pure token
    | none => fresh
  let dialect := (← get).dialect
  return if keywords then token.asKeyword dialect else token

end

/-! ## Documents in a script -/

/-- Whether a line with an end is one that ends a document. -/
def isDelimiter (delimiter : String) (withoutTabs : Bool) (cs : List Char) : Bool :=
  let cs := if withoutTabs then cs.dropWhile (· == '\t') else cs
  String.ofList cs == delimiter

/-- The lines up to a delimiter, and what follows it, and whether it was found; without one all
lines. -/
def linesUpTo (delimiter : String) (withoutTabs : Bool) :
    List (List Char) → List (List Char) × List (List Char) × Bool
  | [] => ([], [], false)
  | cs :: lines =>
    if isDelimiter delimiter withoutTabs cs then ([], lines, true)
    else
      let cs := if withoutTabs then cs.dropWhile (· == '\t') else cs
      let r := linesUpTo delimiter withoutTabs lines
      (cs :: r.1, r.2)

/-- Lines with an end behind each. -/
def joinedLines (lines : List (List Char)) : List Char := lines.flatMap fun cs => cs ++ ['\n']

/-- Cuts characters at line ends; a last line without an end counts if there is anything in it. -/
def cutLines (cs : List Char) : List (List Char) :=
  let parts := (cs.foldr (fun c (r : List Char × List (List Char)) =>
    if c == '\n' then ([], r.1 :: r.2) else (c :: r.1, r.2)) ([], []))
  let all := parts.1 :: parts.2
  if all.getLast? == some [] then all.dropLast else all

/-- The characters of a word that quotes mean nothing else to, and whether some are quoted. -/
def delimiterOf (w : Word) : String × Bool :=
  (String.ofList (w.flatMap fun | .text chars _ => chars | _ => []),
    w.any fun | .text _ quoted => quoted | _ => false)

/-- The number of characters up to the end of a line that no quotes or backslashes cover. -/
def lineLength : Option Char → Nat → List Char → Nat
  | _, count, [] => count
  | some '\x27', count, '\\' :: cs => lineLength (some '\x27') (count + 1) cs
  | quote, count, '\\' :: _ :: cs => lineLength quote (count + 2) cs
  | none, count, c :: cs =>
    if c == '\n' then count
    else if c == '\x27' || c == '"' then lineLength (some c) (count + 1) cs
    else lineLength none (count + 1) cs
  | some quote, count, c :: cs =>
    lineLength (if c == quote then none else some quote) (count + 1) cs

/-- Takes the lines of a document out of the script, behind the line that is being read. -/
def cutDocument (delimiter : String) (withoutTabs : Bool) : Reader (List Char) := do
  let r ← get
  let thisLine := r.rest.take (lineLength none 0 r.rest)
  let following := r.rest.drop (thisLine.length + 1)
  let lines := cutLines following
  let (body, behind, found) := linesUpTo delimiter withoutTabs lines
  let hasEnd := following.getLast? == some '\n'
  if r.more && (!found || (behind.isEmpty && !hasEnd)) then giveUp .needsMore
  let isOpen := !found && !hasEnd
  let rest := if hasEnd || behind.isEmpty then joinedLines behind else (joinedLines behind).dropLast
  set { r with
    rest := thisLine ++ '\n' :: rest
    owed := r.owed + (lines.length - behind.length) }
  return if isOpen then (joinedLines body).dropLast else joinedLines body

/-- The word of a document; unless its delimiter is quoted, values are put into it. -/
def documentWord (inner : Bool → Reader (List Statement)) (delimiter : Word) (withoutTabs : Bool) :
    Reader Word := do
  let (text, quoted) := delimiterOf delimiter
  let r ← get
  let body ← cutDocument text withoutTabs
  if quoted then return [.text body true]
  else
    let reading := Reading.ofChars r.dialect false body (r.line + 1)
    match (pieces inner (freshToken inner (body.length + 1)) (body.length + 1) .document .empty).run
        reading with
    | .ok (w, _) => return w
    | .error e => throw e

end RecallShell.Machine
