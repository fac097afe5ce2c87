import RecallShell.Machine.Shell.Statement
import RecallShell.Numeral

/-!
# Arithmetic expressions

Whole numbers of 64 bits, variables, assignments and the usual operators, which are grouped by how
tightly they bind. The side of a condition that does not count is read but not evaluated. In the rich
language numbers can be raised to powers, and variables counted up behind their use.
-/

namespace RecallShell.Machine

namespace Arithmetic

/-- An expression that is being evaluated. -/
structure Evaluation where
  /-- The characters still to be read. -/
  rest : List Char
  /-- The values that variables have been given, the newest first. -/
  assigned : List (String × Int)

/-- Why an expression has no value. -/
inductive Fault where
  /-- It cannot be read or evaluated, for a reason given in words. -/
  | bad (text : String)
  /-- A variable in it has a value that is no number. -/
  | noNumber (text : String)
  /-- What it asks for cannot be done by the machine. -/
  | crash
  deriving DecidableEq, Repr

/-- An evaluation step; a failure says what is wrong. -/
abbrev Eval := StateT Evaluation (Except Fault)

/-- A whole number cut down to 64 bits. -/
def wrap (n : Int) : Int := Int.bmod n (2 ^ 64)

/-- How expressions are understood. -/
structure Rules where
  /-- The language. -/
  dialect : Dialect
  /-- The text of a variable. -/
  textOf : String → String

/-- The operators, the longer ones first. -/
def symbols (dialect : Dialect) : List String :=
  (if dialect == .rich then ["**", "++"] else []) ++
  ["<<=", ">>=", "==", "!=", "<=", ">=", "&&", "||", "<<", ">>", "+=", "-=", "*=", "/=", "%=", "&=",
    "^=", "|=", "+", "-", "*", "/", "%", "<", ">", "&", "^", "|", "=", "?", ":", "!", "~", "(", ")"]

/-- The groups of operators between two operands, the loosest first. -/
def groups : List (List String) :=
  [["||"], ["&&"], ["|"], ["^"], ["&"], ["==", "!="], ["<", "<=", ">", ">="], ["<<", ">>"],
    ["+", "-"], ["*", "/", "%"]]

/-- Whether a character is blank in an expression. -/
def isSpace (c : Char) : Bool := c == ' ' || c == '\t' || c == '\n'

/-- Passes blanks over. -/
def skipSpace : Eval Unit := modify fun e => { e with rest := e.rest.dropWhile isSpace }

/-- Gives up. -/
def fail {α : Type} (text : String) : Eval α := throw (.bad text)

/-- Leaves some characters behind, which are an operator or an operand. -/
def skip (n : Nat) : Eval Unit := modify fun e => { e with rest := e.rest.drop n }

/-- The operator that comes next, blanks aside. -/
def nextSymbol (rules : Rules) : Eval (Option String) := do
  skipSpace
  let rest := (← get).rest
  return (symbols rules.dialect).find? fun s => s.toList.isPrefixOf rest

/-- Whether a condition holds, as a number. -/
def ofBool (b : Bool) : Int := if b then 1 else 0

/-- The value of an operator at two operands; a divisor of zero has none. -/
def apply (symbol : String) (a b : Int) : Except Fault Int :=
  let shift := (b % 64).toNat
  let bits (f : Nat → Nat → Nat) : Int := f (a % 2 ^ 64).toNat (b % 2 ^ 64).toNat
  let divide (f : Int → Int → Int) : Except Fault Int :=
    if b = 0 then .error (.bad "division by zero")
    else if b = -1 && a = -(2 ^ 63) then .error .crash
    else .ok (wrap (f a b))
  match symbol with
  | "+" => .ok (wrap (a + b))
  | "-" => .ok (wrap (a - b))
  | "*" => .ok (wrap (a * b))
  | "/" => divide Int.tdiv
  | "%" => divide Int.tmod
  | "<<" => .ok (wrap (a * 2 ^ shift))
  | ">>" => .ok (a.fdiv (2 ^ shift))
  | "<" => .ok (ofBool (a < b))
  | "<=" => .ok (ofBool (a ≤ b))
  | ">" => .ok (ofBool (b < a))
  | ">=" => .ok (ofBool (b ≤ a))
  | "==" => .ok (ofBool (a == b))
  | "!=" => .ok (ofBool (a != b))
  | "&" => .ok (wrap (bits (· &&& ·)))
  | "^" => .ok (wrap (bits (· ^^^ ·)))
  | "|" => .ok (wrap (bits (· ||| ·)))
  | "&&" => .ok (ofBool (a != 0 && b != 0))
  | "||" => .ok (ofBool (a != 0 || b != 0))
  | _ => .ok b

/-! ## Numerals -/

/-- The value of a digit. -/
def digitValue (c : Char) : Nat :=
  if c.isDigit then c.toNat - 48
  else if 'a' ≤ c && c ≤ 'z' then c.toNat - 87
  else if 'A' ≤ c && c ≤ 'Z' then c.toNat - 55
  else 64

/-- The number that digits of a base write, if they are digits of that base. -/
def ofDigits? (base : Nat) (cs : List Char) : Option Int :=
  if cs.all fun c => digitValue c < base then
    some (cs.foldl (fun n c => n * base + digitValue c) 0 : Nat)
  else none

/-- The number that an unsigned numeral of any length writes. -/
def readNumeral? : List Char → Option Int
  | '0' :: 'x' :: cs | '0' :: 'X' :: cs => if cs.isEmpty then none else ofDigits? 16 cs
  | '0' :: cs => ofDigits? 8 cs
  | cs => if cs.isEmpty then none else ofDigits? 10 cs

/-- The number that an unsigned numeral stands for: a leading zero means base eight or sixteen, and
what is too great counts as the greatest number there is. -/
def ofNumeral? (cs : List Char) : Option Int := (readNumeral? cs).map fun n => min n (2 ^ 63 - 1)

/-- The number that the text of a variable stands for; a text of nothing stands for zero. -/
def ofText? (text : String) : Option Int :=
  let trimmed := ((text.toList.dropWhile isSpace).reverse.dropWhile isSpace).reverse
  match trimmed with
  | [] => some 0
  | '-' :: cs => (ofNumeral? cs).map fun n => wrap (-n)
  | '+' :: cs => (ofNumeral? cs).map wrap
  | cs => (ofNumeral? cs).map wrap

/-! ## Evaluation -/

/-- Reads the name of a variable at the start, if there is one. -/
def name? : Eval (Option String) := do
  skipSpace
  let name := (← get).rest.takeWhile isNameChar
  if !isName name then return none
  skip name.length
  return some (String.ofList name)

/-- The operands of one group of operators behind a first one, taken together from the left. -/
def chain (rules : Rules) (group : List String) (operand : Bool → Eval Int) (live : Bool) :
    Nat → Int → Eval Int
  | 0, a => return a
  | fuel + 1, a => do
    match (← nextSymbol rules).filter group.contains with
    | none => return a
    | some symbol =>
      skip symbol.length
      let decided := (symbol == "&&" && a == 0) || (symbol == "||" && a != 0)
      let b ← operand (live && !decided)
      if !live then chain rules group operand live fuel a
      else if decided then chain rules group operand live fuel (ofBool (a != 0))
      else chain rules group operand live fuel (← apply symbol a b)

/-- What an expression is read as, from the loosest to the tightest. -/
inductive Level where
  /-- An assignment or anything tighter. -/
  | assignment
  /-- Operands with some groups of operators between them. -/
  | binary (groups : List (List String))
  /-- An operand. -/
  | operand

/-- Whether an operator assigns. -/
def assigns (symbol : String) : Bool :=
  symbol == "=" || (symbol.endsWith "=" && !(["==", "!=", "<=", ">="].contains symbol))

/-- The number that a variable stands for. -/
def variableValue (rules : Rules) (name : String) : Eval Int := do
  match (← get).assigned.lookup name with
  | some n => return n
  | none =>
    match ofText? (rules.textOf name) with
    | some n => return n
    | none => throw (.noNumber (rules.textOf name))

/-- Reads and evaluates an expression; `live` says whether it counts. -/
def eval (rules : Rules) : Nat → Level → Bool → Eval Int
  | 0, _, _ => fail "expecting primary"
  | fuel + 1, .assignment, live => do
    let before ← get
    match ← name?, (← nextSymbol rules).filter assigns with
    | some name, some symbol => do
      skip symbol.length
      let b ← eval rules fuel .assignment live
      if !live then return b
      let value ← if symbol == "=" then pure b
        else do apply (String.ofList symbol.toList.dropLast) (← variableValue rules name) b
      modify fun e => { e with assigned := (name, value) :: e.assigned }
      return value
    | _, _ => do
      set before
      let condition ← eval rules fuel (.binary groups) live
      match ← nextSymbol rules with
      | some "?" => do
        skip 1
        let a ← eval rules fuel .assignment (live && condition != 0)
        match ← nextSymbol rules with
        | some ":" => do
          skip 1
          let b ← eval rules fuel .assignment (live && condition == 0)
          return if condition != 0 then a else b
        | _ => fail "expecting ':'"
      | _ => return condition
  | fuel + 1, .binary [], live => do
    let a ← eval rules fuel .operand live
    if (← nextSymbol rules) != some "**" then return a
    skip 2
    let b ← eval rules fuel (.binary []) live
    return Nat.repeat (fun n => wrap (n * a)) (min b.toNat 64) 1
  | fuel + 1, .binary (group :: tighter), live => do
    let operand (live : Bool) : Eval Int := eval rules fuel (.binary tighter) live
    chain rules group operand live ((← get).rest.length + 1) (← operand live)
  | fuel + 1, .operand, live => do
    match ← nextSymbol rules with
    | some "(" => do
      skip 1
      let n ← eval rules fuel .assignment live
      match ← nextSymbol rules with
      | some ")" => do
        skip 1
        return n
      | _ => fail "expecting ')'"
    | some "-" => do
      skip 1
      return wrap (-(← eval rules fuel .operand live))
    | some "+" => do
      skip 1
      eval rules fuel .operand live
    | some "!" => do
      skip 1
      return ofBool ((← eval rules fuel .operand live) == 0)
    | some "~" => do
      skip 1
      return wrap (-(← eval rules fuel .operand live) - 1)
    | some _ => fail "expecting primary"
    | none => do
      match ← name? with
      | some name => do
        let n ← if live then variableValue rules name else pure 0
        if (← nextSymbol rules) == some "++" then
          skip 2
          if live then modify fun e => { e with assigned := (name, wrap (n + 1)) :: e.assigned }
        return n
      | none => do
        let text := (← get).rest.takeWhile isNameChar
        if text.isEmpty then fail "expecting primary"
        skip text.length
        match ofNumeral? text with
        | some n => return wrap n
        | none => fail "expecting EOF"

/-- What an expression comes to: its value, and the values that it gives to variables, in order. -/
def value (rules : Rules) (expression : String) :
    Except Fault (Int × List (String × Int)) :=
  let cs := expression.toList
  if cs.all isSpace then .ok (0, [])
  else
    match (eval rules (24 * (cs.length + 2)) .assignment true).run ⟨cs, []⟩ with
    | .error e => .error e
    | .ok (n, e) =>
      if e.rest.all isSpace then .ok (n, e.assigned.reverse) else .error (.bad "expecting EOF")

/-- What is said of an expression without a value. -/
def Fault.text (expression : String) : Fault → String
  | .bad text => s!"arithmetic expression: {text}: \"{expression}\""
  | .noNumber text => s!"Illegal number: {text}"
  | .crash => "Floating point exception"

end Arithmetic

end RecallShell.Machine
