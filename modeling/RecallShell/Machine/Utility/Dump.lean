import RecallShell.Machine.Utility.Source

/-!
# Showing octets

The octets of files are shown in rows, behind the place where each row begins: as numbers of two
octets, or one by one as characters or in hexadecimal digits. Rows that repeat the one before are shown
as an asterisk.
-/

namespace RecallShell.Machine

open Text Work

/-- How octets are shown. -/
inductive DumpStyle where
  /-- Two by two in octal digits. -/
  | words
  /-- As characters. -/
  | chars
  /-- In hexadecimal digits. -/
  | hex
  deriving DecidableEq, Repr

/-- A number in a base with at least so many digits. -/
def inDigits (base least n : Nat) : String :=
  let digits := Nat.toDigits base n
  String.ofList (List.replicate (least - digits.length) '0' ++ digits)

/-- A character, or the escape for it. -/
def escapeOf (c : Char) : String :=
  if c == '\x00' then "\\0"
  else
    match controlLetters.lookup c with
    | some letter => "\\" ++ letter.toString
    | none => if ' ' ≤ c && c ≤ '~' then c.toString else inDigits 8 3 c.toNat

/-- Octets two by two, the lesser half of a number first. -/
def dumpWords : List Char → List Nat
  | c :: d :: cs => (c.toNat + 256 * d.toNat) :: dumpWords cs
  | [c] => [c.toNat]
  | [] => []

/-- A row of octets. -/
def DumpStyle.row (style : DumpStyle) (octets : List Char) : String :=
  match style with
  | .words => String.join ((dumpWords octets).map fun n => " " ++ inDigits 8 6 n)
  | .chars => String.join (octets.map fun c => rightAligned 4 (escapeOf c))
  | .hex => String.join (octets.map fun c => " " ++ inDigits 16 2 c.toNat)

/-- The number of octets in a row. -/
def dumpWidth : Nat := 16

/-- The rows of octets behind a place, the row before, and whether it has been repeated. -/
def dumpRows (style : DumpStyle) (place : Nat → String) :
    Nat → Nat → Option (List Char) → Bool → List Char → String
  | 0, start, _, _, _ | _, start, _, _, [] =>
    if (place start).isEmpty then "" else place start ++ "\n"
  | fuel + 1, start, before, repeated, cs =>
    let octets := cs.take dumpWidth
    let more := dumpRows style place fuel (start + octets.length) (some octets)
    if before == some octets then (if repeated then "" else "*\n") ++ more true (cs.drop dumpWidth)
    else s!"{place start}{style.row octets}\n" ++ more false (cs.drop dumpWidth)

/-- What a type that is asked for stands for. -/
def dumpStyle? : Char × String → Option DumpStyle
  | ('c', _) | ('t', "c") => some .chars
  | ('t', "x1") => some .hex
  | ('t', "o2") => some .words
  | _ => none

/-- The content of files one after the other. -/
def joinedContents : List String → Work String
  | [] => return ""
  | path :: paths => do
    match ← contentOf path with
    | .ok text => return text ++ (← joinedContents paths)
    | .error e => do
      complain (unreadable path e) 1
      joinedContents paths

/-- Shows the octets of files. -/
def od : Utility := fun i =>
  let table : OptionTable := .of "c" "At" [("address-radix", 'A'), ("format", 't')]
  table.run i.args 1 fun a => do
    let place : Nat → String ← match (a.value? 'A').getD "o" with
      | "n" => pure fun _ => ""
      | "o" => pure (inDigits 8 7)
      | text =>
        die s!"invalid output address radix '{text}'; it must be one character from [doxn]" 1
    let types := a.options.filter fun o => o.1 != 'A'
    let style ← match types.getLast?, types.getLast?.bind dumpStyle? with
      | none, _ => pure DumpStyle.words
      | some _, some style => pure style
      | some (_, text), none => die s!"invalid type string {← quote text}" 1
    let text ← joinedContents (sources a)
    say (dumpRows style place (text.length + 1) 0 none false text.toList)

end RecallShell.Machine
