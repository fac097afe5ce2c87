import RecallShell.Machine.Work

/-!
# Options of utilities

Arguments that begin with a dash are options: single letters behind one dash, of which the last may
take a value, or a name behind two. The others are operands; two dashes alone make operands of all
that follow.
-/

namespace RecallShell.Machine

/-- The options that a utility knows. -/
structure OptionTable where
  /-- The letters that stand alone. -/
  flags : String
  /-- The letters that take a value. -/
  valued : String
  /-- The letters that names stand for. -/
  names : List (String × Char)
  /-- Whether options may follow operands. -/
  anywhere : Bool
  /-- The letters that can take a value only when it is written together with them. -/
  optional : String := ""

/-- Arguments taken apart. -/
structure Arguments where
  /-- The options, each with its value or nothing. -/
  options : List (Char × String)
  /-- The operands. -/
  operands : List String
  deriving Inhabited

namespace Arguments

/-- Whether an option was given. -/
def has (a : Arguments) (letter : Char) : Bool := a.options.any fun o => o.1 == letter

/-- The value of an option; of several the last one counts. -/
def value? (a : Arguments) (letter : Char) : Option String := a.options.reverse.lookup letter

/-- The values of an option, in order. -/
def values (a : Arguments) (letter : Char) : List String :=
  a.options.filterMap fun o => if o.1 == letter then some o.2 else none

/-- The option of some letters that was given last. -/
def last? (a : Arguments) (letters : String) : Option Char :=
  (a.options.reverse.find? fun o => letters.toList.contains o.1).map (·.1)

/-- Puts options in front. -/
def behind (a : Arguments) (options : List (Char × String)) : Arguments :=
  { a with options := options ++ a.options }

end Arguments

namespace OptionTable

/-- Options that may follow operands. -/
def of (flags valued : String) (names : List (String × Char)) : OptionTable :=
  { flags, valued, names, anywhere := true }

/-- Options that end at the first operand. -/
def leading (flags valued : String) (names : List (String × Char)) : OptionTable :=
  { flags, valued, names, anywhere := false }

/-- What one argument is. -/
inductive Kind where
  /-- An operand. -/
  | operand
  /-- Options. -/
  | options (found : List (Char × String))
  /-- Options and one whose value is the next argument, with what to say if there is none. -/
  | waiting (found : List (Char × String)) (letter : Char) (complaint : String)
  /-- Nothing that is understood. -/
  | bad (complaint : String)

/-- Reads the letters behind a dash. -/
def letters (t : OptionTable) : List Char → List (Char × String) → Kind
  | [], found => .options found.reverse
  | c :: cs, found =>
    if t.valued.toList.contains c then
      if cs.isEmpty then .waiting found.reverse c s!"option requires an argument -- '{c}'"
      else .options ((c, String.ofList cs) :: found).reverse
    else if t.optional.toList.contains c then .options ((c, String.ofList cs) :: found).reverse
    else if t.flags.toList.contains c then t.letters cs ((c, "") :: found)
    else .bad s!"invalid option -- '{c}'"

/-- The letters that the beginning of a name can stand for, with the whole names. -/
def named (t : OptionTable) (name : String) : List (String × Char) :=
  match t.names.filter fun n => n.1 == name with
  | [] => t.names.filter fun n => n.1.startsWith name
  | found => found

/-- The name behind two dashes and the value behind an equals sign. -/
def nameAndValue (arg : String) : String × Option String :=
  let cs := arg.toList.drop 2
  let name := cs.takeWhile (· != '=')
  match cs.drop name.length with
  | _ :: value => (String.ofList name, some (String.ofList value))
  | [] => (String.ofList name, none)

/-- Reads a name behind two dashes. -/
def long (t : OptionTable) (arg : String) : Kind :=
  let (name, value) := nameAndValue arg
  let found := t.named name
  let same := match found with
    | first :: rest => rest.all fun n => n.2 == first.2
    | [] => false
  match found with
  | [] => .bad s!"unrecognized option '{arg}'"
  | (full, letter) :: _ =>
    if !same then
      let all := String.join (found.map fun n => s!" '--{n.1}'")
      .bad s!"option '{arg}' is ambiguous; possibilities:{all}"
    else if t.valued.toList.contains letter then
      match value with
      | some v => .options [(letter, v)]
      | none => .waiting [] letter s!"option '--{full}' requires an argument"
    else
      match value with
      | some v =>
        if t.optional.toList.contains letter then .options [(letter, v)]
        else .bad s!"option '--{full}' doesn't allow an argument"
      | none => .options [(letter, "")]

/-- What an argument is. -/
def kind (t : OptionTable) (arg : String) : Kind :=
  if arg.startsWith "--" then t.long arg
  else if arg.startsWith "-" && arg != "-" then t.letters (arg.toList.drop 1) []
  else .operand

/-- Takes arguments apart, or says what is wrong with them. -/
def read (t : OptionTable) : List String → Except String Arguments
  | [] => .ok ⟨[], []⟩
  | "--" :: operands => .ok ⟨[], operands⟩
  | arg :: args =>
    match t.kind arg with
    | .operand =>
      if t.anywhere then (t.read args).map fun a => { a with operands := arg :: a.operands }
      else .ok ⟨[], arg :: args⟩
    | .options found => (t.read args).map fun a => a.behind found
    | .waiting found letter complaint =>
      match args with
      | [] => .error complaint
      | value :: args => (t.read args).map fun a => a.behind (found ++ [(letter, value)])
    | .bad complaint => .error complaint

/-- Takes arguments apart and goes on with them, or says what is wrong with them. -/
def run (t : OptionTable) (args : List String) (status : Nat) (go : Arguments → Work Unit) :
    Work Unit :=
  match t.read args with
  | .ok a => go a
  | .error complaint => misused complaint status

end OptionTable

end RecallShell.Machine
