import RecallShell.Disk.Change
import RecallShell.Machine.Pattern
import RecallShell.Text.Octets

/-!
# Tests

Tests compare texts, numbers and files. How many arguments a test has decides how it is read as far
as possible, so that operands may look like operators.
-/

namespace RecallShell.Machine

open Text

/-! ## What can be asked -/

/-- The operators that stand between two operands. -/
def comparisons : List String :=
  ["=", "==", "!=", "<", ">", "-eq", "-ne", "-lt", "-le", "-gt", "-ge", "-nt", "-ot", "-ef"]

/-- The operators that stand before one operand. -/
def questions : List String :=
  ["-n", "-z", "-e", "-f", "-d", "-s", "-x", "-r", "-w", "-h", "-L", "-p", "-b", "-c", "-g", "-k",
    "-u", "-O", "-G", "-S", "-t", "-N"]

/-- What the mode of a node says about a bit. -/
def hasModeBit (n : Node) (bit : Nat) : Bool := n.mode / bit % 2 == 1

/-- Whether a node is a file. -/
def isFile (n : Node) : Bool :=
  match n.body with
  | .file _ | .damaged .. | .program _ => true
  | _ => false

/-- Whether there is anything in a node. -/
def holdsSomething (n : Node) : Bool :=
  match n.body with
  | .file content | .damaged content _ => !content.isEmpty
  | .directory .. | .program _ => true
  | _ => false

/-- What a test says of one operand. -/
def asked (d : Disk) (question s : String) : Bool :=
  let node (through : Bool) : Option Node :=
    (d.status through (ofOctets s)).toOption.map d.node
  let found (p : Node → Bool) : Bool := (node true).any p
  match question with
  | "-n" => !s.isEmpty
  | "-z" => s.isEmpty
  | "-f" => found isFile
  | "-d" => found (·.isDirectory)
  | "-s" => found holdsSomething
  | "-x" => found (·.mayRun)
  | "-r" => found (·.mayRead)
  | "-w" => found (·.mayWrite)
  | "-h" | "-L" => (node false).any fun n => match n.body with
    | .link _ => true
    | _ => false
  | "-c" => found fun n => match n.body with
    | .device _ => true
    | _ => false
  | "-p" => found fun n => match n.body with
    | .pipe _ | .outlet _ => true
    | _ => false
  | "-u" => found (hasModeBit · 0o4000)
  | "-g" => found (hasModeBit · 0o2000)
  | "-k" => found (hasModeBit · 0o1000)
  | "-e" | "-O" | "-G" => found fun _ => true
  | _ => false

/-- The whole number that a text writes, blanks around it aside. -/
def integer? (s : String) : Option Int :=
  let isSpace (c : Char) : Bool := c == ' ' || ('\t' ≤ c && c ≤ '\r')
  let cs := s.toList.dropWhile isSpace
  let cs := (cs.reverse.dropWhile isSpace).reverse
  let natural? (digits : List Char) : Option Int :=
    if digits.isEmpty || !digits.all Char.isDigit then none
    else some (digits.foldl (fun n c => n * 10 + (c.toNat - 48)) 0 : Nat)
  match cs with
  | '-' :: digits => (natural? digits).map fun n => -n
  | '+' :: digits | digits => natural? digits

/-- What a test says of two operands; an operand that is no number is given back. -/
def compared (d : Disk) (a operator b : String) : Except String Bool :=
  let numeric (f : Int → Int → Bool) : Except String Bool :=
    match integer? a, integer? b with
    | some x, some y => .ok (f x y)
    | none, _ => .error a
    | _, none => .error b
  let id? (s : String) : Option NodeId := (d.status true (ofOctets s)).toOption
  let time? (s : String) : Option Nat := (id? s).map fun id => (d.node id).changed
  let isNewer (a b : String) : Bool :=
    match time? a, time? b with
    | some s, some t => t < s
    | some _, none => true
    | none, _ => false
  match operator with
  | "=" | "==" => .ok (a == b)
  | "!=" => .ok (a != b)
  | "<" => .ok (!Disk.bytesLe (ofOctets b) (ofOctets a))
  | ">" => .ok (!Disk.bytesLe (ofOctets a) (ofOctets b))
  | "-eq" => numeric (· == ·)
  | "-ne" => numeric (· != ·)
  | "-lt" => numeric (· < ·)
  | "-le" => numeric (· ≤ ·)
  | "-gt" => numeric (· > ·)
  | "-ge" => numeric (· ≥ ·)
  | "-ef" => .ok ((id? a).isSome && id? a == id? b)
  | "-nt" => .ok (isNewer a b)
  | "-ot" => .ok (isNewer b a)
  | _ => .ok false

/-! ## Reading a test -/

/-- What is wrong with a test. -/
inductive TestFault where
  /-- An operand is no whole number. -/
  | noInteger (operand : String)
  /-- There is no such operator before one operand. -/
  | noQuestion (operator : String)
  /-- There is no such operator between two operands. -/
  | noComparison (operator : String)
  /-- An operand is missing behind an argument. -/
  | missing (behind : String)
  /-- Nothing is there to be tested. -/
  | nothing
  /-- A parenthesis is not closed; perhaps something else stands in its place. -/
  | unclosed (found : Option String)
  /-- There is an argument too many. -/
  | extra (arg : String)
  deriving DecidableEq, Repr

/-- A part of a test: whether it holds and what follows it, or what is wrong. -/
abbrev Tested := Except TestFault (Bool × List String)

/-- How a program reads tests. -/
structure TestStyle where
  /-- The operators between two operands. -/
  comparisons : List String
  /-- Whether any dash with a letter is taken for an operator before an operand. -/
  anyDash : Bool

namespace TestStyle

variable (style : TestStyle) (d : Disk)

/-- Whether an argument is an operator before an operand. -/
def isQuestion (arg : String) : Bool :=
  if style.anyDash then arg.length == 2 && arg.startsWith "-" else questions.contains arg

/-- What an operator before one operand says. -/
def unary (question s : String) : Except TestFault Bool :=
  if style.anyDash && question == "-t" && (integer? s).isNone then .error (.noInteger s)
  else if questions.contains question then .ok (asked d question s)
  else .error (.noQuestion question)

/-- What an operator between two operands says. -/
def binary (a operator b : String) : Except TestFault Bool :=
  (compared d a operator b).mapError .noInteger

/-- Reads a test of up to four arguments by their number; none if it has to be read in full. -/
def byCount : List String → Option (Except TestFault Bool)
  | [] => some (.ok false)
  | [s] => some (.ok (!s.isEmpty))
  | "!" :: [s] => some (.ok s.isEmpty)
  | [a, b] =>
    if style.isQuestion a then some (style.unary d a b)
    else some (.error (if style.anyDash then .missing b else .noQuestion a))
  | [a, operator, b] =>
    if style.comparisons.contains operator then some (binary d a operator b)
    else if a == "!" then (byCount [operator, b]).map fun r => r.map (!·)
    else if a == "(" && b == ")" then some (.ok (!operator.isEmpty))
    else if operator == "-a" || operator == "-o" then none
    else some (.error (.noComparison operator))
  | ["!", a, b, c] => (byCount [a, b, c]).map fun r => r.map (!·)
  | ["(", a, b, ")"] => byCount [a, b]
  | _ => none

/-- Reads a term of a test in full. -/
def term (whole : List String → Tested) : Nat → List String → Tested
  | 0, _ | _, [] => .error .nothing
  | fuel + 1, "!" :: args => (term whole fuel args).map fun r => (!r.1, r.2)
  | _ + 1, "(" :: args =>
    match whole args with
    | .ok (r, ")" :: rest) => .ok (r, rest)
    | .ok (_, other :: _) => .error (.unclosed (some other))
    | .ok (_, []) => .error (.unclosed none)
    | .error e => .error e
  | _ + 1, a :: args =>
    match args with
    | operator :: b :: rest =>
      if style.comparisons.contains operator then (binary d a operator b).map fun r => (r, rest)
      else if style.isQuestion a then (style.unary d a operator).map fun r => (r, b :: rest)
      else .ok (!a.isEmpty, args)
    | [b] =>
      if style.isQuestion a then (style.unary d a b).map fun r => (r, []) else .ok (!a.isEmpty, args)
    | [] => if style.isQuestion a then .error (.missing a) else .ok (!a.isEmpty, [])

/-- Reads tests that a word joins, taken together from the left. -/
def joined (word : String) (join : Bool → Bool → Bool) (part : List String → Tested) :
    Nat → Bool → List String → Tested
  | fuel + 1, before, operator :: args =>
    if operator == word then
      match part args with
      | .ok (r, rest) => joined word join part fuel (join before r) rest
      | .error e => .error e
    else .ok (before, operator :: args)
  | _, before, args => .ok (before, args)

/-- Reads a test in full. -/
def whole : Nat → List String → Tested
  | 0, _ => .error .nothing
  | fuel + 1, args => do
    let conjunction (args : List String) : Tested := do
      let one := style.term d (whole fuel) (args.length + 1)
      let (first, rest) ← one args
      joined "-a" (· && ·) one args.length first rest
    let (first, rest) ← conjunction args
    joined "-o" (· || ·) conjunction args.length first rest

/-- Whether a test holds, or what is wrong with it. -/
def holds (args : List String) : Except TestFault Bool :=
  match style.byCount d args with
  | some r => r
  | none =>
    match style.whole d (args.length + 1) args with
    | .ok (r, []) => .ok r
    | .ok (_, extra :: _) => .error (.extra extra)
    | .error e => .error e

end TestStyle

end RecallShell.Machine
