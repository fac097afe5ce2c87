import RecallShell.Text.Octets

/-!
# Characters of octet strings

The bytes of an octet string make up characters where they are UTF-8. A byte that is not becomes a
mark of its own, so that the octets can be had back from the characters.
-/

namespace RecallShell.Text

/-- The number of the mark for the byte zero. -/
def markBase : Nat := 0x10FF00

/-- The mark that stands for a byte of no character. -/
def markOf (octet : Char) : Char := Char.ofNat (markBase + octet.toNat)

/-- Whether a character is a mark, and not a real character. -/
def isMark (c : Char) : Bool := markBase + 0x80 ≤ c.toNat

/-- The characters that octets make up, behind octets of a character that has begun. -/
def charactersFrom : Decoding → List Char → List Char → List Char
  | _, begun, [] => begun.reverse.map markOf
  | .between, _, c :: cs =>
    if c.toNat < 0x80 then c :: charactersFrom .between [] cs
    else
      match Decoding.start (UInt8.ofNat c.toNat) with
      | (_, .between) => markOf c :: charactersFrom .between [] cs
      | (_, inside) => charactersFrom inside [c] cs
  | d, begun, c :: cs =>
    let (shown, next) := d.step (UInt8.ofNat c.toNat)
    match shown, next with
    | [], next => charactersFrom next (c :: begun) cs
    | [whole], .between =>
      if whole == replacement && !(begun.length == 2 && c.toNat == 0xBD) then
        begun.reverse.map markOf ++
          (if c.toNat < 0x80 then [c] else [markOf c]) ++ charactersFrom .between [] cs
      else whole :: charactersFrom .between [] cs
    | _, .between =>
      begun.reverse.map markOf ++
        (if c.toNat < 0x80 then [c] else [markOf c]) ++ charactersFrom .between [] cs
    | _, next => begun.reverse.map markOf ++ charactersFrom next [c] cs

/-- The characters that an octet string makes up. -/
def characters (text : String) : List Char := charactersFrom .between [] text.toList

/-- The octets of a character. -/
def octetsOf (c : Char) : List Char :=
  if c.toNat < 0x80 then [c]
  else if isMark c then [Char.ofNat (c.toNat - markBase)]
  else (octets (encode c.toString)).toList

/-- The octet string that characters make up. -/
def ofCharacters (cs : List Char) : String := String.ofList (cs.flatMap octetsOf)

end RecallShell.Text
