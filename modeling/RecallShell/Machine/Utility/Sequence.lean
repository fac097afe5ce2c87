import RecallShell.Machine.Format
import RecallShell.Machine.Utility.Source

/-!
# Numbers in a row

Numbers are counted up or down from one to another in steps. They are exact, with as many places as
the operands have.
-/

namespace RecallShell.Machine

open Text Work

/-- An operand: a fraction, and the number of places behind its point. -/
structure SeqOperand where
  /-- The numerator. -/
  num : Int
  /-- The denominator. -/
  den : Nat
  /-- The number of places. -/
  places : Nat

namespace SeqOperand

/-- Reads an operand. -/
def read? (text : String) : Option SeqOperand :=
  let places := ((text.toList.dropWhile (· != '.')).drop 1).takeWhile Char.isDigit
  match Quantity.read? text.toList with
  | some (.finite negative num den, []) =>
    some ⟨if negative then -(num : Int) else num, den, places.length⟩
  | _ => none

/-- The numerator over a multiple of the denominator. -/
def scaledTo (o : SeqOperand) (den : Nat) : Int := o.num * (den / o.den : Nat)

end SeqOperand

/-- A format for numbers: what stands before and behind the one directive in it. -/
structure SeqFormat where
  /-- The text before the number. -/
  before : String
  /-- How the number is written. -/
  directive : Directive
  /-- The letter of the conversion. -/
  conversion : Char
  /-- The text behind the number. -/
  behind : String

namespace SeqFormat

/-- A number written in a format. -/
def write (f : SeqFormat) (num : Int) (den : Nat) : String :=
  f.before ++ f.directive.real .extended f.conversion (.finite (num < 0) num.natAbs den) ++ f.behind

/-- Reads a format; what is wrong with it is said behind the quoted format. -/
def read (text : String) : Except String SeqFormat :=
  let before := text.toList.takeWhile (· != '%')
  match text.toList.drop before.length with
  | [] => .error "has no % directive"
  | _ :: cs =>
    let flags := cs.takeWhile fun c => "-+#0 ".toList.contains c
    let cs := cs.drop flags.length
    let width := cs.takeWhile Char.isDigit
    match cs.drop width.length with
    | [] => .error "ends in %"
    | c :: rest =>
      if !"efg".toList.contains c then .error s!"has unknown %{c} directive"
      else
        .ok ⟨String.ofList before, ⟨flags, digitsValue 10 width, none⟩, c, String.ofList rest⟩

/-- The format with so many places, for numbers as wide as the wider one of two if asked for. -/
def fixed (places : Nat) (equal : Bool) (ends : List (Int × Nat)) : SeqFormat :=
  let plain : SeqFormat := ⟨"", ⟨['0'], 0, some places⟩, 'f', ""⟩
  let width := (ends.map fun e => (plain.write e.1 e.2).length).foldl max 0
  if equal then { plain with directive := ⟨['0'], width, some places⟩ } else plain

end SeqFormat

/-- Writes numbers over a denominator from one on, in steps, up to a last one, with something between
them. -/
def sayRow (f : SeqFormat) (separator : String) (den : Nat) (step last : Int) : Nat → Int → Work Unit
  | 0, _ => pure ()
  | turns + 1, n => do
    say (f.write n den)
    let next := n + step
    if if 0 < step then last < next else next < last then say "\n"
    else do
      say separator
      sayRow f separator den step last turns next

/-- Arguments with a mark for the end of the options before the first negative number. -/
def withNegatives : List String → List String
  | [] => []
  | "--" :: args => "--" :: args
  | arg :: args =>
    match arg.toList with
    | '-' :: c :: _ =>
      if c.isDigit || c == '.' then "--" :: arg :: args else arg :: withNegatives args
    | _ => arg :: args

/-- Writes numbers in a row. -/
def seq : Utility := fun i =>
  let table : OptionTable :=
    .leading "w" "sf" [("equal-width", 'w'), ("separator", 's'), ("format", 'f')]
  table.run (withNegatives i.args) 1 fun a => do
    if let some bad := a.operands.find? fun o => (SeqOperand.read? o).isNone then
      misused s!"invalid floating point argument: {← quote bad}" 1
    let one : SeqOperand := ⟨1, 1, 0⟩
    let (first, step, last) ← match a.operands.filterMap SeqOperand.read? with
      | [] => misused "missing operand" 1
      | [last] => pure (one, one, last)
      | [first, last] => pure (first, one, last)
      | [first, step, last] => pure (first, step, last)
      | _ => do
        let extra := a.operands.getD 3 ""
        misused s!"extra operand {← quote extra}" 1
    if step.num == 0 then
      let zero := a.operands.getD 1 ""
      misused s!"invalid Zero increment value: {← quote zero}" 1
    let f ← match a.value? 'f' with
      | none => pure (SeqFormat.fixed (max first.places step.places) (a.has 'w')
          [(first.num, first.den), (last.num, last.den)])
      | some text =>
        match SeqFormat.read text with
        | .ok f => pure f
        | .error fault => die s!"format {← quote text} {fault}" 1
    let den := first.den * step.den * last.den
    let (start, step, stop) := (first.scaledTo den, step.scaledTo den, last.scaledTo den)
    if if 0 < step then start ≤ stop else stop ≤ start then
      sayRow f ((a.value? 's').getD "\n") den step stop Act.endless start

end RecallShell.Machine
