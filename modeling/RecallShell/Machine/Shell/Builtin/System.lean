import RecallShell.Machine.Escapes
import RecallShell.Machine.Shell.Builtin.Basic

/-!
# Commands for the process

A process has permissions that its new files do not get and limits on what it may use.
-/

namespace RecallShell.Machine

open Text

namespace Builtin

/-! ## Permissions -/

/-- Text brought to a width by characters in front of it. -/
def leftPadded (width : Nat) (fill : Char) (text : String) : String :=
  String.ofList (List.replicate (width - text.length) fill) ++ text

/-- A number in octal digits. -/
def inOctalDigits (n : Nat) : String := String.ofList (Nat.toDigits 8 n)

/-- The permissions of all. -/
def allPermissions : Nat := 0o777

/-- The permissions that are left by a mask, in letters. -/
def permissionLetters (mask : Nat) : String :=
  let of (shift : Nat) : String :=
    let bits := (allPermissions - mask) / shift % 8
    (if bits / 4 % 2 == 1 then "r" else "") ++ (if bits / 2 % 2 == 1 then "w" else "")
      ++ (if bits % 2 == 1 then "x" else "")
  s!"u={of 64},g={of 8},o={of 1}"

/-- The letters for those whom permissions are given to, and what follows them. -/
def holdersAt (cs : List Char) : Nat × List Char :=
  let letters := cs.takeWhile fun c => "augo".toList.contains c
  let bit (c : Char) : Nat :=
    match c with
    | 'a' => 0o111
    | 'u' => 0o100
    | 'g' => 0o010
    | _ => 0o001
  let holders := letters.foldl (fun n c => n ||| bit c) 0
  (if holders == 0 then 0o111 else holders, cs.drop letters.length)

/-- The permissions that letters stand for, where some are given already. -/
def permissionsAt (given : Nat) (cs : List Char) : Nat × List Char :=
  let letters := cs.takeWhile fun c => "rwxugoXs".toList.contains c
  let bits (c : Char) : Nat :=
    match c with
    | 'r' => 4
    | 'w' => 2
    | 'x' => 1
    | 'u' => given / 64 % 8
    | 'g' => given / 8 % 8
    | 'o' => given % 8
    | 'X' => if given &&& 0o111 == 0 then 0 else 1
    | _ => 0
  (letters.foldl (fun n c => n ||| bits c) 0, cs.drop letters.length)

/-- The permissions that a text of letters makes of some, if it can be read. -/
def changedBy (given : Nat) : Nat → Nat → Option Nat → List Char → Option Nat
  | 0, _, _, _ => none
  | fuel + 1, now, holders?, cs =>
    let (holders, cs) := match holders? with
      | some holders => (holders, cs)
      | none => holdersAt cs
    match cs with
    | operator :: cs =>
      if operator != '=' && operator != '+' && operator != '-' then none
      else
        let (bits, rest) := permissionsAt given cs
        let value := bits * holders
        let now := match operator with
          | '-' => now - (now &&& value)
          | '=' => value ||| (now - (now &&& (holders * 7)))
          | _ => now ||| value
        match rest with
        | [] => some now
        | ',' :: rest => changedBy given fuel now none rest
        | rest => changedBy given fuel now (some holders) rest
    | [] => some now

/-- Sets the permissions that new files do not get, or shows them. -/
def umask : Builtin := fun _ args => do
  let (given, args) ← options "S" args
  let mask ← (Act.look fun pid w => (w.member pid).mask : Act Nat)
  let setMask (mask : Nat) : Sh Nat := do
    (Act.change fun pid w => w.update pid fun m => { m with mask := mask &&& allPermissions } : Act Unit)
    return 0
  match args with
  | [] => do
    let text := if hasOption given 'S' then permissionLetters mask
      else leftPadded 4 '0' (inOctalDigits mask)
    Sh.say (text ++ "\n")
    return 0
  | arg :: _ =>
    if arg.toList.head?.any Char.isDigit then
      if arg.toList.all isOctal then setMask (digitsValue 8 arg.toList)
      else misused s!"Illegal number: {arg}"
    else
      let left := allPermissions - mask
      match changedBy left (arg.length + 1) left none arg.toList with
      | some left => setMask (allPermissions - (left &&& allPermissions))
      | none => misused s!"Illegal mode: {arg}"

/-! ## Limits -/

/-- The limits that a process has if nothing else is said, by their letters. -/
def usualLimits : List (Char × Nat) := [('s', 8192), ('c', 0), ('l', 8192), ('n', 1024), ('r', 0)]

/-- The number that stands for no limit among those that a process has been given. -/
def noLimit : Nat := 2 ^ 64

/-- A limit of a process in words. -/
def limitText (m : Member) (letter : Char) : String :=
  match (m.limits.lookup letter).orElse fun _ => usualLimits.lookup letter with
  | some n => if n == noLimit then "unlimited" else toString n
  | none => "unlimited"

/-- Sets a limit of the process, or shows it. -/
def ulimit : Builtin := fun _ args => do
  let (given, args) ← options "HStfdscmlpnvwr" args
  let m ← (Act.look fun pid w => w.member pid : Act Member)
  let asked := ((given.reverse.find? fun o => o.1 != 'H' && o.1 != 'S').map (·.1)).getD 'f'
  match args with
  | [] => do
    Sh.say (limitText m asked ++ "\n")
    return 0
  | arg :: more => do
    if !more.isEmpty then misused "too many arguments"
    let n ← if arg == "unlimited" then pure noLimit
      else if arg.toList.all Char.isDigit then pure (arg.toNat?.getD 0)
      else misused "bad number"
    (Act.change fun pid w => w.update pid fun m =>
      { m with limits := (asked, n) :: m.limits.filter fun l => l.1 != asked } : Act Unit)
    return 0

/-- Shows the times that the shell and its children have used. -/
def times : Builtin := fun _ _ => do
  Sh.say "0m0.000000s 0m0.000000s\n0m0.000000s 0m0.000000s\n"
  return 0

/-! ## Programs -/

/-- The number of rows of the table that the places of programs are kept in. -/
def hashRows : Nat := 31

/-- Shows or forgets where programs were found, or looks for some. -/
def hash : Builtin := fun _ args => do
  let (given, names) ← options "r" args
  if hasOption given 'r' then
    modify fun s => { s with hashed := [] }
    return 0
  if names.isEmpty then
    Sh.say (String.join ((inRows hashRows (← get).hashed).map fun h => s!"{h.2}\n"))
    return 0
  let mut status := 0
  for name in names do
    modify fun s => { s with hashed := s.hashed.filter fun h => h.1 != name }
    match ← Sh.findPath name with
    | .ok _ => pure ()
    | .error e => do
      Sh.warn s!"{name}: {(Sh.notRun (← get) false e).1}"
      status := 1
  return status

end Builtin

end RecallShell.Machine
