import RecallShell.Machine.Escapes
import RecallShell.Numeral

/-!
# Quantities

A quantity is a number with a point, infinite, or no number at all. It is read from decimal or
hexadecimal text, rounded to the bits that a binary number of some format has, and written with a
fixed number of places, with an exponent, or in whichever way is shorter. Halves go to the even
neighbour.
-/

namespace RecallShell.Machine

/-- A number with a point. -/
inductive Quantity where
  /-- A fraction, perhaps below zero. -/
  | finite (negative : Bool) (num den : Nat)
  /-- Beyond all numbers. -/
  | infinite (negative : Bool)
  /-- No number. -/
  | nothing (negative : Bool)
  deriving DecidableEq, Repr, Inhabited

/-- A format of binary numbers. -/
structure BinaryFormat where
  /-- The bits of a number. -/
  bits : Nat
  /-- The exponent of the least bit of all. -/
  least : Int
  /-- The exponent beyond the greatest bit of all. -/
  greatest : Int
  deriving DecidableEq, Repr

/-- Numbers of 64 bits in all. -/
def BinaryFormat.double : BinaryFormat := ⟨53, -1074, 1024⟩

/-- Numbers of 80 bits in all. -/
def BinaryFormat.extended : BinaryFormat := ⟨64, -16445, 16384⟩

namespace Quantity

/-- A quotient rounded to a whole number; a half goes to the even neighbour. -/
def roundDiv (num den : Nat) : Nat :=
  let (q, r) := (num / den, num % den)
  if 2 * r > den || (2 * r == den && q % 2 == 1) then q + 1 else q

/-- A quantity times a power of two, as numerator and denominator. -/
def timesPower (base num den : Nat) (exponent : Int) : Nat × Nat :=
  if 0 ≤ exponent then (num * base ^ exponent.toNat, den) else (num, den * base ^ exponent.natAbs)

/-- A number of bits and an exponent of two that come nearest to a fraction above zero. -/
def nearest (f : BinaryFormat) (num den : Nat) : Nat × Int :=
  let estimate : Int := (Nat.log2 num : Int) - (Nat.log2 den : Int) - (f.bits : Int)
  let exact (e : Int) : Nat × Nat := timesPower 2 num den (-e)
  let fits (e : Int) : Bool := let (n, d) := exact e; n < d * 2 ^ f.bits
  let e := if fits estimate then estimate else estimate + 1
  let e := max e f.least
  let (n, d) := exact e
  let m := roundDiv n d
  if m == 2 ^ f.bits then (2 ^ (f.bits - 1), e + 1) else (m, e)

/-- The nearest number of a format. -/
def rounded (f : BinaryFormat) : Quantity → Quantity
  | .finite negative num den =>
    if num == 0 then .finite negative 0 1
    else
      let (m, e) := nearest f num den
      if f.greatest < e + (Nat.log2 m : Int) + 1 then .infinite negative
      else let (n, d) := timesPower 2 m 1 e; .finite negative n d
  | other => other

/-- Whether it is below zero, the zero below zero included. -/
def isNegative : Quantity → Bool
  | .finite negative .. | .infinite negative | .nothing negative => negative

/-! ## Reading -/

/-- Whether a character is blank in front of a number. -/
def isSpace (c : Char) : Bool := c == ' ' || ('\t' ≤ c && c ≤ '\r')

/-- The greatest exponent that is taken as it is. -/
def maxExponent : Nat := 20000

/-- The exponent behind a mark, and what follows it. -/
def exponent (marks : String) (cs : List Char) : Int × List Char :=
  match cs with
  | mark :: rest =>
    if marks.toList.contains mark then
      let (negative, digits) := match rest with
        | '-' :: more => (true, more)
        | '+' :: more => (false, more)
        | more => (false, more)
      let shown := digits.takeWhile Char.isDigit
      if shown.isEmpty then (0, cs)
      else
        let n := min (digitsValue 10 shown) maxExponent
        (if negative then -(n : Int) else n, digits.drop shown.length)
    else (0, cs)
  | [] => (0, [])

/-- The digits in front of a point and behind it, and what follows them. -/
def digits (isDigit : Char → Bool) (cs : List Char) : List Char × List Char × List Char :=
  let whole := cs.takeWhile isDigit
  match cs.drop whole.length with
  | '.' :: rest =>
    let part := rest.takeWhile isDigit
    if whole.isEmpty && part.isEmpty then ([], [], cs) else (whole, part, rest.drop part.length)
  | rest => (whole, [], rest)

/-- The fraction that unsigned text begins with, and what follows it. -/
def readUnsigned? (cs : List Char) : Option (Nat × Nat × List Char) :=
  let hex? : Option (Nat × Nat × List Char) := match cs with
    | '0' :: x :: rest =>
      if x == 'x' || x == 'X' then
        let (whole, part, behind) := digits isHex rest
        if whole.isEmpty && part.isEmpty then none
        else
          let (e, behind) := exponent "pP" behind
          let (n, d) := timesPower 2 (digitsValue 16 (whole ++ part)) 1 (e - 4 * part.length)
          some (n, d, behind)
      else none
    | _ => none
  match hex? with
  | some found => some found
  | none =>
    let (whole, part, behind) := digits Char.isDigit cs
    if whole.isEmpty && part.isEmpty then none
    else
      let (e, behind) := exponent "eE" behind
      let (n, d) := timesPower 10 (digitsValue 10 (whole ++ part)) 1 (e - part.length)
      some (n, d, behind)

/-- Whether text begins with a word in any case, and what follows it. -/
def behindWord? (word : String) (cs : List Char) : Option (List Char) :=
  if (cs.take word.length).map Char.toLower == word.toList then some (cs.drop word.length) else none

/-- The quantity that text begins with, and what follows it. -/
def read? (cs : List Char) : Option (Quantity × List Char) :=
  let cs := cs.dropWhile isSpace
  let (negative, cs) := match cs with
    | '-' :: rest => (true, rest)
    | '+' :: rest => (false, rest)
    | rest => (false, rest)
  match behindWord? "infinity" cs, behindWord? "inf" cs, behindWord? "nan" cs with
  | some rest, _, _ | none, some rest, _ => some (.infinite negative, rest)
  | none, none, some rest => some (.nothing negative, rest)
  | none, none, none => (readUnsigned? cs).map fun r => (.finite negative r.1 r.2.1, r.2.2)

/-! ## Writing -/

/-- Digits with a point so many places before their end. -/
def pointed (places : Nat) (withPoint : Bool) (n : Nat) : String :=
  let digits := toString n
  let digits := List.replicate (places + 1 - digits.length) '0' ++ digits.toList
  let cut := digits.length - places
  let whole := String.ofList (digits.take cut)
  if places == 0 && !withPoint then whole
  else s!"{whole}.{String.ofList (digits.drop cut)}"

/-- A fraction with a number of places. -/
def fixed (places : Nat) (withPoint : Bool) (num den : Nat) : String :=
  pointed places withPoint (roundDiv (num * 10 ^ places) den)

/-- The exponent of ten of the first digit of a fraction above zero. -/
def decimalExponent (num den : Nat) : Int :=
  let length (n : Nat) : Int := (toString n).length
  let estimate := length num - length den
  let (n, d) := timesPower 10 num den (-estimate)
  if n < d then estimate - 1 else estimate

/-- The digits and the exponent of ten of a fraction, with so many places behind the first digit. -/
def scientificParts (places : Nat) (num den : Nat) : Nat × Int :=
  if num == 0 then (0, 0)
  else
    let e := decimalExponent num den
    let (n, d) := timesPower 10 num den ((places : Int) - e)
    let m := roundDiv n d
    if m == 10 ^ (places + 1) then (10 ^ places, e + 1) else (m, e)

/-- An exponent with its sign and at least two digits. -/
def exponentText (mark : String) (e : Int) : String :=
  let digits := toString e.natAbs
  let digits := if digits.length < 2 then "0" ++ digits else digits
  mark ++ (if e < 0 then "-" else "+") ++ digits

/-- A fraction with one digit before the point and an exponent. -/
def scientific (places : Nat) (withPoint : Bool) (num den : Nat) : String :=
  let (m, e) := scientificParts places num den
  pointed places withPoint m ++ exponentText "e" e

/-- Text without the zeros at the end of what is behind the point. -/
def withoutZeros (text : String) : String :=
  if text.toList.contains '.' then
    let kept := (text.toList.reverse.dropWhile (· == '0')).reverse
    String.ofList (if kept.getLast? == some '.' then kept.dropLast else kept)
  else text

/-- A fraction with so many digits in all, with an exponent only if it is far from one. -/
def general (digits : Nat) (keepZeros : Bool) (num den : Nat) : String :=
  let digits := max digits 1
  let (m, e) := scientificParts (digits - 1) num den
  let trim (text : String) : String := if keepZeros then text else withoutZeros text
  if e < -4 || (digits : Int) ≤ e then
    trim (pointed (digits - 1) keepZeros m) ++ exponentText "e" e
  else trim (fixed ((digits : Int) - 1 - e).toNat keepZeros num den)

/-- A fraction of a format in hexadecimal digits, with so many of them behind the point or as many
as there are. -/
def hexadecimal (f : BinaryFormat) (places : Option Nat) (withPoint : Bool) (num den : Nat) :
    String :=
  let lead := if f.bits % 4 == 0 then 4 else 1
  let count := (f.bits - lead) / 4
  let (m, e) := if num == 0 then (0, 0) else
    let (m, e) := nearest f num den
    let shift := f.bits - 1 - Nat.log2 m
    (m * 2 ^ shift, e - shift)
  let power : Int := if num == 0 then 0 else e + ((f.bits : Int) - lead)
  let shown := places.getD count
  let m := if shown < count then roundDiv m (16 ^ (count - shown)) else m * 16 ^ (shown - count)
  let hex := Nat.toDigits 16 m
  let hex := List.replicate (shown + 1 - hex.length) '0' ++ hex
  let part := hex.drop (hex.length - shown)
  let part := if places.isNone then (part.reverse.dropWhile (· == '0')).reverse else part
  let whole := String.ofList (hex.take (hex.length - shown))
  let point := if part.isEmpty && !withPoint then "" else "."
  let sign := if power < 0 then "-" else "+"
  s!"0x{whole}{point}{String.ofList part}p{sign}{power.natAbs}"

end Quantity

end RecallShell.Machine
