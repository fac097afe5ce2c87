import RecallShell.Machine.Condition
import RecallShell.Machine.Regex
import RecallShell.Machine.Utility.Order

/-!
# Tests and expressions

`test` tells by its status whether a test holds. `expr` writes the value of an expression, whose
operators and operands are an argument each; what an operator does not need is read and not computed.
-/

namespace RecallShell.Machine

open Text Work

/-! ## Tests -/

/-- How tests are read. -/
def testStyle : TestStyle := ⟨comparisons.filter fun c => c != "<" && c != ">", true⟩

/-- What is wrong with a test, in words, where something may stand behind its last argument. -/
def testFaultText (behind : Option String) (e : TestFault) : Work String := do
  match e with
  | .noInteger operand => return s!"invalid integer {← quote operand}"
  | .noQuestion operator => return s!"{← quote operator}: unary operator expected"
  | .noComparison operator => return s!"{← quote operator}: binary operator expected"
  | .missing behind => return s!"missing argument after {← quote behind}"
  | .nothing => return "missing argument"
  | .unclosed found =>
    let wanted ← quote ")"
    match found.orElse fun _ => behind with
    | some found => return s!"{wanted} expected, found {← quote found}"
    | none => return s!"{wanted} expected"
  | .extra arg => return s!"extra argument {← quote arg}"

/-- Ends well if a test holds, behind which something may stand. -/
def judgeTest (args : List String) (behind : Option String) : Work Unit := do
  match testStyle.holds (← disk) args with
  | .ok true => pure ()
  | .ok false => fail 1
  | .error e => complain (← testFaultText behind e) 2

/-- Ends well if its arguments make up a test that holds. -/
def test : Utility := fun i => judgeTest i.args none

/-- A test whose last argument is a closing bracket. -/
def bracketed : Utility := fun i => do
  if i.args.getLast? == some "]" then judgeTest i.args.dropLast (some "]")
  else
    let wanted ← quote "]"
    complain s!"missing {wanted}" 2

/-! ## Values -/

/-- Whether a text is written like a whole number. -/
def isWhole (s : String) : Bool :=
  let digits := if s.startsWith "-" then s.toList.drop 1 else s.toList
  !digits.isEmpty && digits.all Char.isDigit

/-- The whole number that a text writes. -/
def whole? (s : String) : Option Int := if isWhole s then integer? s else none

/-- Whether a value counts as nothing: empty or zero. -/
def isNull (s : String) : Bool := s.isEmpty || (isWhole s && integer? s == some 0)

/-- What is wrong with an expression. -/
inductive ExprFault where
  /-- An argument is missing behind one. -/
  | missing (behind : String)
  /-- An argument has no place. -/
  | unexpected (arg : String)
  /-- A closing parenthesis has no place. -/
  | closing
  /-- A closing parenthesis is missing behind an argument. -/
  | unclosed (behind : String)
  /-- Something stands where a closing parenthesis must. -/
  | instead (arg : String)
  /-- A value is no number. -/
  | noInteger
  /-- Something is divided by zero. -/
  | zero
  /-- A regular expression cannot be read. -/
  | regex (fault : Regex.Fault)

/-- The length of a match at the start of a text, or what the first group of it matched. -/
def matched (unicode : Bool) (text pattern : String) : Except ExprFault String :=
  let chars (s : String) : List Char := if unicode then characters s else s.toList
  let back (cs : List Char) : String := if unicode then ofCharacters cs else String.ofList cs
  match Regex.read false (chars pattern) with
  | .error e => .error (.regex e)
  | .ok r =>
    match r.at? (chars text) 0 with
    | some found =>
      .ok (if 0 < r.groups then back (found.group 1) else toString found.chars.length)
    | none => .ok (if 0 < r.groups then "" else "0")

/-- What an operator makes of two values. -/
def combine (unicode : Bool) (operator a b : String) : Except ExprFault String :=
  let numbers (f : Int → Int → Except ExprFault Int) : Except ExprFault String :=
    match whole? a, whole? b with
    | some x, some y => (f x y).map toString
    | _, _ => .error .noInteger
  let divided (f : Int → Int → Int) : Except ExprFault String :=
    numbers fun x y => if y == 0 then .error .zero else .ok (f x y)
  let compared (holds : Ordering → Bool) : Except ExprFault String :=
    let order := match whole? a, whole? b with
      | some x, some y => compare x y
      | _, _ => compareOctets a.toList b.toList
    .ok (if holds order then "1" else "0")
  match operator with
  | "|" => .ok (if !isNull a then a else if !isNull b then b else "0")
  | "&" => .ok (if isNull a || isNull b then "0" else a)
  | "<" => compared (· == .lt)
  | "<=" => compared (· != .gt)
  | "=" | "==" => compared (· == .eq)
  | "!=" => compared (· != .eq)
  | ">=" => compared (· != .lt)
  | ">" => compared (· == .gt)
  | "+" => numbers fun x y => .ok (x + y)
  | "-" => numbers fun x y => .ok (x - y)
  | "*" => numbers fun x y => .ok (x * y)
  | "/" => divided Int.tdiv
  | "%" => divided Int.tmod
  | _ => matched unicode a b

/-! ## Reading -/

/-- A value, the argument before what follows, and what follows. -/
abbrev ExprRest := Except ExprFault (String × String × List String)

/-- A part of an expression: whether its value is needed, the argument before it, and its arguments. -/
abbrev ExprPart := Bool → String → List String → ExprRest

/-- The operators, the loosest first. -/
def exprOperators : List (List String) :=
  [["|"], ["&"], ["<", "<=", "=", "==", "!=", ">=", ">"], ["+", "-"], ["*", "/", "%"], [":"]]

/-- Whether the value of an operand is needed behind an operator, by the value before it. -/
def needsNext (operator before : String) : Bool :=
  match operator with
  | "|" => isNull before
  | "&" => !isNull before
  | _ => true

/-- Reads an operand, words for functions included. -/
def exprOperand (unicode : Bool) (whole : ExprPart) : Nat → ExprPart
  | 0, _, before, _ => .error (.missing before)
  | fuel + 1, needed, before, args =>
    let one := exprOperand unicode whole fuel needed
    let chars (s : String) : List Char := if unicode then characters s else s.toList
    let back (cs : List Char) : String := if unicode then ofCharacters cs else String.ofList cs
    match args with
    | [] => .error (.missing before)
    | "+" :: rest =>
      match rest with
      | [] => .error (.missing "+")
      | s :: rest => .ok (s, s, rest)
    | "length" :: rest => do
      let (s, last, rest) ← one "length" rest
      return (toString (chars s).length, last, rest)
    | "match" :: rest => do
      let (s, last, rest) ← one "match" rest
      let (pattern, last, rest) ← one last rest
      return (← if needed then matched unicode s pattern else .ok "", last, rest)
    | "index" :: rest => do
      let (s, last, rest) ← one "index" rest
      let (set, last, rest) ← one last rest
      let n := (chars s).findIdx fun c => (chars set).contains c
      return (toString (if n < (chars s).length then n + 1 else 0), last, rest)
    | "substr" :: rest => do
      let (s, last, rest) ← one "substr" rest
      let (first, last, rest) ← one last rest
      let (count, last, rest) ← one last rest
      let part := match whole? first, whole? count with
        | some n, some k =>
          if 0 < n && 0 < k then back (((chars s).drop (n.toNat - 1)).take k.toNat) else ""
        | _, _ => ""
      return (part, last, rest)
    | "(" :: rest => do
      let (v, last, rest) ← whole needed "(" rest
      match rest with
      | ")" :: rest => return (v, ")", rest)
      | other :: _ => throw (.instead other)
      | [] => throw (.unclosed last)
    | ")" :: _ => .error .closing
    | s :: rest => .ok (s, s, rest)

/-- Reads operands with operators of a group between them, taken together from the left. -/
def exprChain (unicode : Bool) (group : List String) (part : ExprPart) (needed : Bool) :
    Nat → String → String → List String → ExprRest
  | fuel + 1, value, last, operator :: args =>
    if !group.contains operator then .ok (value, last, operator :: args)
    else do
      let (next, last, rest) ← part (needed && needsNext operator value) operator args
      let value ← if needed then combine unicode operator value next else .ok value
      exprChain unicode group part needed fuel value last rest
  | _, value, last, args => .ok (value, last, args)

/-- Reads operands with the operators of some groups between them. -/
def exprLevel (unicode : Bool) (operand : ExprPart) : List (List String) → ExprPart
  | [] => operand
  | group :: tighter => fun needed before args => do
    let part := exprLevel unicode operand tighter
    let (value, last, rest) ← part needed before args
    exprChain unicode group part needed args.length value last rest

/-- Reads an expression. -/
def exprWhole (unicode : Bool) : Nat → ExprPart
  | 0 => fun _ before _ => .error (.missing before)
  | fuel + 1 => fun needed before args =>
    exprLevel unicode (exprOperand unicode (exprWhole unicode fuel) (args.length + 1)) exprOperators
      needed before args

/-- What is wrong with an expression, in words. -/
def ExprFault.text (e : ExprFault) : Work String := do
  match e with
  | .missing behind => return s!"syntax error: missing argument after {← quote behind}"
  | .unexpected arg => return s!"syntax error: unexpected argument {← quote arg}"
  | .closing => return "syntax error: unexpected ')'"
  | .unclosed behind => return s!"syntax error: expecting ')' after {← quote behind}"
  | .instead arg => return s!"syntax error: expecting ')' instead of {← quote arg}"
  | .noInteger => return "non-integer argument"
  | .zero => return "division by zero"
  | .regex fault => return fault.text

/-- Writes the value of an expression. -/
def expr : Utility := fun i => do
  let args := if i.args.head? == some "--" then i.args.tail else i.args
  if args.isEmpty then misused "missing operand" 2
  match exprWhole i.hasUnicode (args.length + 1) true i.name args with
  | .ok (value, _, []) => do
    sayLine value
    if isNull value then fail 1
  | .ok (_, _, extra :: _) => complain (← (ExprFault.unexpected extra).text) 2
  | .error e => complain (← e.text) 2

end RecallShell.Machine
