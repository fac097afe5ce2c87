import RecallShell.Machine.Utility.Source

/-!
# Lines in order

Lines are compared by what counts of them, in one of several ways, and by all of their octets where
that does not decide. A key is a line from one of its fields on.
-/

namespace RecallShell.Machine

open Text Work

/-! ## Ways to compare -/

/-- Compares texts octet by octet. -/
def compareOctets (a b : List Char) : Ordering :=
  if a == b then .eq else if a < b then .lt else .gt

/-- Compares fractions, each perhaps below zero. -/
def compareFractions (a b : Int × Nat) : Ordering := compare (a.1 * b.2) (b.1 * a.2)

/-- The number in plain decimal form that a text begins with, behind blanks; zero if there is none. -/
def leadingDecimal (cs : List Char) : Int × Nat :=
  let cs := cs.dropWhile fun c => c == ' ' || c == '\t'
  let (negative, cs) := match cs with
    | '-' :: more => (true, more)
    | more => (false, more)
  let (whole, part, _) := Quantity.digits Char.isDigit cs
  let n : Int := digitsValue 10 (whole ++ part)
  (if negative then -n else n, 10 ^ part.length)

/-- The number in any form that a text begins with. -/
def leadingQuantity? (cs : List Char) : Option (Int × Nat) :=
  match Quantity.read? cs with
  | some (.finite negative num den, _) => some (if negative then -(num : Int) else num, den)
  | _ => none

/-- A line behind so many fields. -/
def behindFields : Nat → List Char → List Char
  | 0, cs => cs
  | n + 1, cs =>
    let isGap (c : Char) : Bool := c == ' ' || c == '\t'
    behindFields n ((cs.dropWhile isGap).dropWhile fun c => !isGap c)

/-- How lines are compared. -/
structure Sorting where
  /-- The number of fields that do not count. -/
  skipped : Nat
  /-- Whether only blanks, letters and digits count. -/
  dictionary : Bool
  /-- Whether lower case counts as upper case. -/
  folds : Bool
  /-- Whether lines are compared by the numbers in plain form that they begin with. -/
  numeric : Bool
  /-- Whether lines are compared by the numbers in any form that they begin with; lines without come
  first. -/
  general : Bool
  /-- Whether the order is the other way round. -/
  reverse : Bool
  /-- Whether of lines that count as the same only one is kept. -/
  unique : Bool

namespace Sorting

/-- A line as far as it counts. -/
def counted (s : Sorting) (cs : List Char) : List Char :=
  let cs := behindFields s.skipped cs
  let cs := if s.dictionary then cs.filter fun c => c.isAlphanum || c == ' ' || c == '\t' else cs
  if s.folds then cs.map Char.toUpper else cs

/-- Compares lines by what counts of them. -/
def compareCounted (s : Sorting) (a b : List Char) : Ordering :=
  let (a, b) := (s.counted a, s.counted b)
  if s.numeric then compareFractions (leadingDecimal a) (leadingDecimal b)
  else if s.general then
    match leadingQuantity? a, leadingQuantity? b with
    | some x, some y => compareFractions x y
    | x, y => compare x.isSome y.isSome
  else compareOctets a b

/-- Compares lines. -/
def compare_ (s : Sorting) (a b : List Char) : Ordering :=
  let order := (s.compareCounted a b).then (if s.unique then .eq else compareOctets a b)
  if s.reverse then order.swap else order

/-- Leaves out lines that do not differ from the one before. -/
def once (s : Sorting) : List (List Char) → List (List Char)
  | [] => []
  | [x] => [x]
  | x :: y :: rest =>
    let kept := s.once (y :: rest)
    if s.compare_ x y == .eq then x :: kept.drop 1 else x :: kept

/-- Puts together lists of lines, each of which is taken to be in order. -/
def merge (s : Sorting) (lists : List (List (List Char))) : List (List Char) :=
  let merged := lists.foldl (fun as bs => List.merge as bs fun a b => s.compare_ a b != .gt) []
  if s.unique then s.once merged else merged

/-- Lines in order. -/
def sort (s : Sorting) (lines : List (List Char)) : List (List Char) :=
  s.merge [lines.mergeSort fun a b => s.compare_ a b != .gt]

/-- The first line that comes behind one that it should come before, with its number. -/
def disorder? (s : Sorting) : Nat → List (List Char) → Option (Nat × List Char)
  | n, a :: b :: rest =>
    let order := s.compare_ a b
    if order == .gt || (order == .eq && s.unique) then some (n + 1, b)
    else s.disorder? (n + 1) (b :: rest)
  | _, _ => none

end Sorting

/-- Writes the lines of its sources in order. -/
def sort : Utility := fun i => do
  let table : OptionTable := .of "cdfgmnruz" "k" [("check", 'c'), ("dictionary-order", 'd'),
    ("ignore-case", 'f'), ("general-numeric-sort", 'g'), ("merge", 'm'), ("numeric-sort", 'n'),
    ("reverse", 'r'), ("unique", 'u'), ("zero-terminated", 'z'), ("key", 'k')]
  table.run i.args 2 fun a => do
    let key := (a.value? 'k').getD "1"
    let field ← match natural? key with
      | some n => pure n
      | none => die s!"invalid number at field start: invalid count at start of {← quote key}" 2
    let s : Sorting := ⟨field - 1, a.has 'd', a.has 'f', a.has 'n', a.has 'g', a.has 'r', a.has 'u'⟩
    let ending := if a.has 'z' then '\x00' else '\n'
    let texts ← (sources a).mapM fun path => do
      match ← contentOf path with
      | .ok text =>
        let parts := (text.splitToList (· == ending)).map String.toList
        return if parts.getLast? == some [] then parts.dropLast else parts
      | .error e => die s!"cannot read: {unreadable path e}" 2
    if a.has 'c' then
      if let some (n, line) := s.disorder? 1 texts.flatten then
        let source := Quoting.ifNeeded ((sources a).headD "-")
        complain s!"{source}:{n}: disorder: {String.ofList line}" 1
    else
      let sorted := if a.has 'm' then s.merge texts else s.sort texts.flatten
      say (String.join (sorted.map fun line => String.ofList (line ++ [ending])))

end RecallShell.Machine
