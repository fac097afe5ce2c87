import RecallShell.Machine.Condition
import RecallShell.Machine.Shell.Builtin.Basic

/-!
# Tests of a shell

A shell reads a test from left to right and takes each argument for an operator where one may stand,
unless what follows it shows that it is an operand.
-/

namespace RecallShell.Machine

open Text

namespace Builtin

/-- What an argument of a test may be. -/
inductive Term where
  /-- There is no argument. -/
  | ending
  /-- An operand. -/
  | operand
  /-- An operator before one operand. -/
  | question
  /-- An operator between two operands. -/
  | comparison
  /-- The word that joins tests of which both must hold. -/
  | and
  /-- The word that joins tests of which one must hold. -/
  | or
  /-- The word for the contrary of a test. -/
  | not
  /-- An opening parenthesis. -/
  | opening
  /-- A closing parenthesis. -/
  | closing
  deriving DecidableEq, Repr

namespace Term

/-- The operators of a shell between two operands. -/
def plainComparisons : List String := comparisons.filter (· != "==")

/-- What an argument is if it is no operand. -/
def ofWord? (word : String) : Option Term :=
  match word with
  | "!" => some .not
  | "-a" => some .and
  | "-o" => some .or
  | "(" => some .opening
  | ")" => some .closing
  | word =>
    if plainComparisons.contains word then some .comparison
    else if word != "-N" && questions.contains word then some .question
    else none

/-- Whether an operator that would stand before an operand is one itself. -/
def isOperand : List String → Bool
  | [] => true
  | [_] => false
  | word :: _ => ofWord? word == some .comparison

/-- What the first of some arguments is. -/
def ofArgs : List String → Term
  | [] => .ending
  | word :: rest =>
    match ofWord? word with
    | none => .operand
    | some .question => if isOperand rest then .operand else .question
    | some .opening => if rest.isEmpty then .operand else .opening
    | some term => term

end Term

/-- A part of a test: whether it holds and the arguments from its last one on, or what is wrong. -/
abbrev Judged := Except String (Bool × List String)

/-- The number that an operand must be. -/
def testNumber (operand : String) : Except String Int :=
  match (integer? operand).filter fun n => -2 ^ 63 ≤ n && n < 2 ^ 63 with
  | some n => .ok n
  | none => .error s!"Illegal number: {operand}"

/-- What an operator between two operands says of them. -/
def judgeBoth (d : Disk) (a operator b : String) : Except String Bool :=
  if operator.startsWith "-" && !(["-nt", "-ot", "-ef"].contains operator) then
    match testNumber a, testNumber b with
    | .error e, _ | _, .error e => .error e
    | .ok _, .ok _ => (compared d a operator b).mapError fun bad => s!"Illegal number: {bad}"
  else
    let isThere (s : String) : Bool := (d.status true (ofOctets s)).toBool
    match compared d a operator b with
    | .ok r => .ok (if operator == "-nt" || operator == "-ot" then r && isThere a && isThere b else r)
    | .error bad => .error s!"Illegal number: {bad}"

/-- Judges a test that is not joined with others. -/
def judgeOne (d : Disk) (whole : Term → List String → Judged) : Nat → Term → List String → Judged
  | 0, _, args => .ok (false, args)
  | _ + 1, .ending, args => .ok (false, args)
  | fuel + 1, .not, args =>
    (judgeOne d whole fuel (Term.ofArgs args.tail) args.tail).map fun r => (!r.1, r.2)
  | _ + 1, .opening, args =>
    let inner := args.tail
    match Term.ofArgs inner with
    | .closing => .ok (false, inner)
    | term => do
      let (r, rest) ← whole term inner
      if Term.ofArgs rest.tail == .closing then return (r, rest.tail)
      else throw "closing paren expected"
  | _ + 1, .question, args =>
    match args with
    | question :: operand :: rest => do
      if question == "-t" then discard <| testNumber operand
      return (asked d question operand, operand :: rest)
    | _ => .error (args.headD "" ++ ": argument expected")
  | _ + 1, _, args =>
    if Term.ofArgs args.tail == .comparison then
      match args with
      | a :: operator :: b :: rest => (judgeBoth d a operator b).map fun r => (r, b :: rest)
      | _ => .error (args.tail.headD "" ++ ": argument expected")
    else .ok (args.head?.any fun a => !a.isEmpty, args)

/-- Judges tests that a word joins, behind those that have been judged. -/
def judgeJoined (word : Term) (join : Bool → Bool → Bool) (part : Term → List String → Judged) :
    Nat → Bool → List String → Judged
  | 0, before, args => .ok (before, args)
  | fuel + 1, before, args =>
    if Term.ofArgs args.tail == word then do
      let next := args.tail.tail
      let (r, rest) ← part (Term.ofArgs next) next
      judgeJoined word join part fuel (join before r) rest
    else .ok (before, args)

/-- Judges a whole test. -/
def judge (d : Disk) : Nat → Term → List String → Judged
  | 0, _, args => .ok (false, args)
  | fuel + 1, term, args => do
    let conjunction (term : Term) (args : List String) : Judged := do
      let one := judgeOne d (judge d fuel) (args.length + 2)
      let (first, rest) ← one term args
      judgeJoined .and (· && ·) one args.length first rest
    let (first, rest) ← conjunction term args
    judgeJoined .or (· || ·) conjunction args.length first rest

/-- Judges a test and sees to it that no argument is left. -/
def judgeAll (d : Disk) (term : Term) (args : List String) : Except String Bool := do
  match ← judge d (args.length + 2) term args with
  | (r, last :: _ :: _) => if args.isEmpty then return r else throw s!"{last}: unexpected operator"
  | (r, _) => return r

/-- Whether a test holds, or what is wrong with it. -/
def plainTest (d : Disk) : List String → Except String Bool
  | [] => .ok false
  | first :: args =>
    let count := args.length + 1
    if count == 3 && (args.head?.bind Term.ofWord?) == some .comparison then
      judgeAll d .operand (first :: args)
    else if count == 3 || count == 4 then
      if first == "(" && args.getLast? == some ")" then
        judgeAll d (Term.ofArgs args.dropLast) args.dropLast
      else if first == "!" then (plainTest d args).map (!·)
      else judgeAll d (Term.ofArgs (first :: args)) (first :: args)
    else judgeAll d (Term.ofArgs (first :: args)) (first :: args)

/-! ## The commands -/

/-- Ends well if a test holds. -/
def test : Builtin := fun _ args => do
  match plainTest (← Sh.disk) args with
  | .ok r => return if r then 0 else 1
  | .error text => misused text

/-- A test whose last argument is a closing bracket. -/
def bracket : Builtin := fun r args => do
  if args.getLast?.any (·.startsWith "]") then test r args.dropLast else misused "missing ]"

end Builtin

end RecallShell.Machine
