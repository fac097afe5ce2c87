import RecallShell.Machine.Utility.Source

/-!
# Octets in letters

Three octets make up four letters of six bits each. The last letters are filled up with signs.
-/

namespace RecallShell.Machine

open Text Work

/-- The letters for numbers of six bits. -/
def sixBitLetters : List Char :=
  "ABCDEFGHIJKLMNOPQRSTUVWXYZabcdefghijklmnopqrstuvwxyz0123456789+/".toList

/-- The letters for three octets, or for fewer at the end. -/
def sixBitGroup (group : List Char) : List Char :=
  let value := group.foldl (fun n c => n * 256 + c.toNat) 0 * 256 ^ (3 - group.length)
  (List.range 4).map fun i =>
    if i ≤ group.length then sixBitLetters.getD (value / 64 ^ (3 - i) % 64) '=' else '='

/-- The letters for octets. -/
def inSixBits : Nat → List Char → List Char
  | 0, _ | _, [] => []
  | fuel + 1, cs => sixBitGroup (cs.take 3) ++ inSixBits fuel (cs.drop 3)

/-- A text in lines of a width. -/
def wrapped (width : Nat) : Nat → List Char → String
  | 0, _ | _, [] => ""
  | fuel + 1, cs => String.ofList (cs.take width) ++ "\n" ++ wrapped width fuel (cs.drop width)

/-- Writes the octets of a file in letters. -/
def base64 : Utility := fun i =>
  let table : OptionTable := .of "" "" []
  table.run i.args 1 fun a => do
    let path ← match a.operands with
      | [] => pure "-"
      | [path] => pure path
      | _ :: extra :: _ => misused s!"extra operand {← quote extra}" 1
    match ← contentOf path with
    | .error e => die (unreadable path e) 1
    | .ok text =>
      let cs := text.toList
      say (wrapped 76 (2 * cs.length + 1) (inSixBits cs.length cs))

end RecallShell.Machine
