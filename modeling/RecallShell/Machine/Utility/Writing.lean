import RecallShell.Machine.Format
import RecallShell.Machine.Utility.Source

/-!
# Utilities that write

These utilities write what follows from their arguments and their environment alone: texts, formats,
parts of paths and factors of numbers.
-/

namespace RecallShell.Machine

open Text Work

/-- Ends with a status and does nothing else. -/
def ends (status : Nat) : Utility := fun _ => setStatus status

/-! ## Texts -/

/-- The letters of the options of `echo`, and the other arguments. -/
def echoLetters (args : List String) : List Char × List String :=
  let isOption (a : String) : Bool := 2 ≤ a.length && a.startsWith "-"
    && (a.toList.drop 1).all fun c => c == 'n' || c == 'e' || c == 'E'
  ((args.takeWhile isOption).flatMap fun a => a.toList.drop 1, args.dropWhile isOption)

/-- Writes its arguments. -/
def echo : Utility := fun i => do
  let (letters, operands) := echoLetters i.args
  let text := " ".intercalate operands
  let escapes := (letters.filter (· != 'n')).getLast? == some 'e'
  let (shown, stops) := if escapes then echoEscapes.unescape text else (text, false)
  say (if letters.contains 'n' || stops then shown else shown ++ "\n")

/-- Writes its arguments again and again. -/
def yes : Utility := fun i => do
  let table : OptionTable := .of "" "" []
  table.run i.args 1 fun a => do
    let line := (if a.operands.isEmpty then "y" else " ".intercalate a.operands) ++ "\n"
    let block := String.join (List.replicate (2 * blockSize / line.length + 1) line)
    let rec again : Nat → Work Unit
      | 0 => pure ()
      | turns + 1 => do
        match ← (Act.write 1 block : Act _) with
        | .ok () => again turns
        | .error e => do
          complain (because "standard output" e) 1
          exit 1
    again Act.endless

/-- Says what is wrong with an argument or a directive of a format. -/
def sayFault (fault : FormatFault) : Work Unit := do
  match fault with
  | .notNumeric arg => complain s!"{← quote arg}: expected a numeric value" 1
  | .notWholly arg => complain s!"{← quote arg}: value not completely converted" 1
  | .outOfRange arg => complain (because (← quote arg) .outOfRange) 1
  | .ignored rest =>
    complain
      s!"warning: {rest}: character(s) following character constant have been ignored" 0
  | .badDirective directive | .cutShort directive =>
    complain s!"{directive}: invalid conversion specification" 1

/-- Writes its arguments in a format. -/
def printf : Utility := fun i =>
  match i.args with
  | [] | ["--"] => misused "missing operand" 1
  | "--" :: format :: args | format :: args => do
    let r := Format.apply utilityFormats format args
    say r.out
    forEach r.faults sayFault
    if r.args.length == args.length && !r.stops then
      match args with
      | extra :: _ =>
        complain s!"warning: ignoring excess arguments, starting with {← quote extra}" 0
      | [] => pure ()

/-! ## Paths -/

/-- The last name of a path, without a given ending unless it is nothing else. -/
def baseName (ending path : String) : String :=
  let base := lastName path
  if base != ending && base.endsWith ending && base != "/" then
    String.ofList (base.toList.take (base.length - ending.length))
  else base

/-- Writes the last names of paths. -/
def basename : Utility := fun i =>
  let table : OptionTable := .leading "az" "s" [("multiple", 'a'), ("suffix", 's'), ("zero", 'z')]
  table.run i.args 1 fun a => do
    let write (ending path : String) : Work Unit :=
      say (baseName ending path ++ if a.has 'z' then "\x00" else "\n")
    match a.operands with
    | [] => misused "missing operand" 1
    | operands =>
      if a.has 'a' || a.has 's' then forEach operands (write ((a.value? 's').getD ""))
      else
        match operands with
        | _ :: _ :: extra :: _ => misused s!"extra operand {← quote extra}" 1
        | path :: rest => write (rest.headD "") path
        | [] => pure ()

/-- The path of the directory that a path leads into. -/
def directoryName (path : String) : String :=
  let trim (cs : List Char) : List Char := cs.dropWhile (· == '/')
  let behind := (trim path.toList.reverse).dropWhile (· != '/')
  let kept := (trim behind).reverse
  if kept.isEmpty then (if path.startsWith "/" then "/" else ".") else String.ofList kept

/-- Writes the paths of the directories that paths lead into. -/
def dirname : Utility := fun i =>
  let table : OptionTable := .of "z" "" [("zero", 'z')]
  table.run i.args 1 fun a => do
    if a.operands.isEmpty then misused "missing operand" 1
    else forEach a.operands fun path =>
      say (directoryName path ++ if a.has 'z' then "\x00" else "\n")

/-! ## The environment -/

/-- Writes values of the environment. -/
def printenv : Utility := fun i =>
  let table : OptionTable := .leading "0" "" [("null", '0')]
  table.run i.args 2 fun a => do
    let ending := if a.has '0' then "\x00" else "\n"
    if a.operands.isEmpty then forEach i.environment fun v => say s!"{v.1}={v.2}{ending}"
    else forEach a.operands fun name =>
      match i.environment.lookup name with
      | some value => say (value ++ ending)
      | none => fail 1

/-! ## Factors -/

/-- The prime factors of a number from a candidate on. -/
def factorsFrom : Nat → Nat → Nat → List Nat
  | 0, _, n => if n ≤ 1 then [] else [n]
  | fuel + 1, d, n =>
    if n ≤ 1 then []
    else if n < d * d then [n]
    else if n % d == 0 then d :: factorsFrom fuel d (n / d)
    else factorsFrom fuel (if d == 2 then 3 else d + 2) n

/-- The prime factors of a number, in order. -/
def factorsOf (n : Nat) : List Nat := factorsFrom 100000000 2 n

/-- Writes the prime factors of numbers. -/
def factor : Utility := fun i =>
  let table : OptionTable := .of "h" "" [("exponents", 'h')]
  table.run i.args 1 fun a => do
    let write (word : String) : Work Unit := do
      let cs := word.toList.dropWhile Quantity.isSpace
      let cs := if cs.head? == some '+' then cs.drop 1 else cs
      match natural? (String.ofList cs) with
      | some n =>
        let shown := (factorsOf n).map toString
        say (s!"{n}:" ++ String.join (shown.map (" " ++ ·)) ++ "\n")
      | none => complain s!"{← quote word} is not a valid positive integer" 1
    if !a.operands.isEmpty then forEach a.operands write
    else
      match ← contentOf "-" with
      | .ok text =>
        forEach ((text.splitToList Quantity.isSpace).filter (!·.isEmpty)) write
      | .error _ => pure ()

end RecallShell.Machine
