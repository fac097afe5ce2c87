import RecallShell.Machine.Shell.Statement

/-!
# Braces

A word with alternatives in braces stands for several words, one for each of them. Numbers and
letters can be counted through. Braces that hold neither stand for themselves.
-/

namespace RecallShell.Machine

namespace Brace

/-- Cuts the parts of a word at the brace that closes one before them, with commas in between at
which the alternatives end. -/
def alternatives : Nat → List Atom → List Atom → Option (List (List Atom) × List Atom)
  | _, _, [] => none
  | depth, current, atom :: atoms =>
    let goOn (depth : Nat) := alternatives depth (atom :: current) atoms
    match atom with
    | .char '\x7b' false => goOn (depth + 1)
    | .char '\x7d' false =>
      if depth == 0 then some ([current.reverse], atoms) else goOn (depth - 1)
    | .char ',' false =>
      if depth == 0 then (alternatives 0 [] atoms).map fun r => (current.reverse :: r.1, r.2)
      else goOn depth
    | _ => goOn depth

/-- The numbers from one to another. -/
def counted (first last : Int) : List Int :=
  (List.range ((last - first).natAbs + 1)).map fun i : Nat =>
    if first ≤ last then first + i else first - i

/-- The texts that a count stands for. -/
def sequence? (text : String) : Option (List String) :=
  match text.splitOn ".." with
  | [a, b] =>
    match a.toInt?, b.toInt?, a.toList, b.toList with
    | some first, some last, _, _ => some ((counted first last).map toString)
    | _, _, [x], [y] =>
      some ((counted x.toNat y.toNat).map fun n => (Char.ofNat n.toNat).toString)
    | _, _, _, _ => none
  | _ => none

/-- The words that the parts of a word stand for, in so many turns at most. -/
def expand : Nat → List Atom → List (List Atom)
  | 0, atoms => [atoms]
  | _, [] => [[]]
  | fuel + 1, .char '\x7b' false :: atoms =>
    let middles? : Option (List (List Atom) × List Atom) :=
      match alternatives 0 [] atoms with
      | some ([one], rest) =>
        ((Word.plain? (Word.ofAtoms one)).bind sequence?).map fun texts =>
          (texts.map fun text => text.toList.map fun c => Atom.char c false, rest)
      | some (parts, rest) => some (parts.flatMap (expand fuel), rest)
      | none => none
    match middles? with
    | some (middles, rest) =>
      middles.flatMap fun middle => (expand fuel rest).map (middle ++ ·)
    | none => (expand fuel atoms).map (.char '\x7b' false :: ·)
  | fuel + 1, atom :: atoms => (expand fuel atoms).map (atom :: ·)

end Brace

/-- The words that a word with braces stands for. -/
def Word.withoutBraces (w : Word) : List Word :=
  (Brace.expand (2 * w.atoms.length + 2) w.atoms).map Word.ofAtoms

end RecallShell.Machine
