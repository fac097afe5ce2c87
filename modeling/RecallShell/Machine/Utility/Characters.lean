import RecallShell.Machine.Escapes
import RecallShell.Machine.Pattern
import RecallShell.Machine.Utility.Source

/-!
# Replacing characters

A set names characters: one by one, as ranges, as classes, as repetitions. Characters of a first set
are replaced by those at the same places of a second one, or removed, and runs of the same character
become a single one. Characters are octets.
-/

namespace RecallShell.Machine

open Text Work

/-! ## Sets -/

/-- All octets, as characters. -/
def allOctets : List Char := (List.range 256).map octet

/-- A character of a set as it is written, and whether it was escaped. -/
abbrev SetChar := Char × Bool

/-- The characters of a set with their escapes read. -/
def setChars : Nat → List Char → List SetChar
  | 0, _ | _, [] => []
  | fuel + 1, '\\' :: c :: cs =>
    match controlLetters.find? fun r => r.2 == c with
    | some (control, _) => (control, true) :: setChars fuel cs
    | none =>
      let digits := ((c :: cs).take 3).takeWhile isOctal
      if digits.isEmpty then (c, true) :: setChars fuel cs
      else (octet (digitsValue 8 digits), true) :: setChars fuel ((c :: cs).drop digits.length)
  | fuel + 1, c :: cs => (c, false) :: setChars fuel cs

/-- A range of characters. -/
def rangeOf (first last : Char) : Except String (List Char) :=
  if last < first then
    .error s!"range-endpoints of '{first}-{last}' are in reverse collating sequence order"
  else .ok (allOctets.filter fun c => first ≤ c && c ≤ last)

/-- What stands in brackets behind the opening one, and what follows them. -/
def bracketed? (cs : List SetChar) : Option (List Char × List SetChar) :=
  match cs with
  | (':', false) :: inside =>
    let name := (inside.takeWhile (· != (':', false))).map (·.1)
    match Pattern.namedRanges.lookup (String.ofList name), inside.drop name.length with
    | some ranges, _ :: (']', false) :: rest =>
      some (allOctets.filter fun c => ranges.any fun r => r.1 ≤ c && c ≤ r.2, rest)
    | _, _ => none
  | ('=', false) :: (c, _) :: ('=', false) :: (']', false) :: rest => some ([c], rest)
  | (c, _) :: ('*', false) :: inside =>
    let digits := (inside.map (·.1)).takeWhile Char.isDigit
    match inside.drop digits.length with
    | (']', false) :: rest => some (List.replicate (digitsValue 10 digits) c, rest)
    | _ => none
  | _ => none

/-- The characters of a set. -/
def charsOfSet : Nat → List SetChar → Except String (List Char)
  | 0, _ | _, [] => .ok []
  | fuel + 1, c :: cs => do
    match (if c == ('[', false) then bracketed? cs else none), cs with
    | some (chars, rest), _ => return chars ++ (← charsOfSet fuel rest)
    | none, ('-', false) :: (last, _) :: rest =>
      return (← rangeOf c.1 last) ++ (← charsOfSet fuel rest)
    | none, rest => return c.1 :: (← charsOfSet fuel rest)

/-- The characters of a set, as it is written. -/
def readSet (text : String) : Except String (List Char) :=
  charsOfSet (text.length + 1) (setChars (text.length + 1) text.toList)

/-! ## Changes -/

/-- The table that says for each octet what replaces it; the last character of the second set stands
for those that are missing. -/
def changeTable (first second : List Char) : Array Char :=
  let filled := second ++ List.replicate (first.length - second.length) (second.getLastD '\x00')
  (first.zip filled).foldl (fun t p => t.setIfInBounds p.1.toNat p.2) allOctets.toArray

/-- A set as a table of octets. -/
def memberTable (set : List Char) : Array Bool :=
  set.foldl (fun t c => t.setIfInBounds c.toNat true) (Array.replicate 256 false)

/-- Leaves out what repeats the character before it, of those in a set. -/
def squeezed (set : Array Bool) : Option Char → List Char → List Char
  | _, [] => []
  | before, c :: cs =>
    if before == some c && set[c.toNat]?.getD false then squeezed set before cs
    else c :: squeezed set (some c) cs

/-- Goes on with the sets of characters that two operands name, of which the second may be missing. -/
def withSets (first second : String) (go : List Char → List Char → Work Unit) : Work Unit :=
  match readSet first, readSet second with
  | .error e, _ | .ok _, .error e => die e 1
  | .ok first, .ok second => go first second

/-- Replaces, removes or squeezes characters of its standard input. -/
def tr : Utility := fun i =>
  let table : OptionTable := .leading "cdst" "" [("delete", 'd'), ("squeeze-repeats", 's'),
    ("complement", 'c'), ("truncate-set1", 't')]
  table.run i.args 1 fun a => do
    let (deletes, squeezes) := (a.has 'd', a.has 's')
    let translates := a.operands.length == 2 && !deletes
    match a.operands with
    | [] => misused "missing operand" 1
    | [one] => if deletes == squeezes then misused s!"missing operand after {← quote one}" 1
    | [_, _] => pure ()
    | _ :: _ :: extra :: _ => misused s!"extra operand {← quote extra}" 1
    withSets (a.operands.headD "") (a.operands.getD 1 "") fun named second => do
      let there := memberTable named
      let first := if a.has 'c' then allOctets.filter fun c => !(there[c.toNat]?.getD false)
        else if translates && a.has 't' then named.take second.length
        else named
      if translates && second.isEmpty && !a.has 't' then
        die "when not truncating set1, string2 must be non-empty" 1
      let change := changeTable first second
      let removed := memberTable first
      let repeats := memberTable (if a.operands.length == 2 then second else first)
      let convert (before : Option Char) (cs : List Char) : List Char :=
        let cs := if deletes then cs.filter fun c => !(removed[c.toNat]?.getD false)
          else if translates then cs.map fun c => (change[c.toNat]?).getD c
          else cs
        if squeezes then squeezed repeats before cs else cs
      let rec go : Nat → Option Char → Work Unit
        | 0, _ => pure ()
        | turns + 1, before => do
          match ← read 0 8192 with
          | .error e => die (because "read error" e) 1
          | .ok text =>
            if !text.isEmpty then
              let cs := convert before text.toList
              say (String.ofList cs)
              go turns (cs.getLast?.orElse fun _ => before)
      go Act.endless none

end RecallShell.Machine
