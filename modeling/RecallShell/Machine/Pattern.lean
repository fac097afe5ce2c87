/-!
# Patterns

A pattern is a list of marks: a character, any one character, one character of a set, or any run of
characters. Characters that are quoted when a pattern is written stand for themselves.
-/

namespace RecallShell.Machine

/-- A part of a pattern. -/
inductive Mark where
  /-- One given character. -/
  | char (c : Char)
  /-- Any one character. -/
  | anyOne
  /-- Any run of characters. -/
  | anyRun
  /-- One character that lies in one of some ranges, or one that lies in none of them. -/
  | oneOf (within : Bool) (ranges : List (Char × Char))
  deriving DecidableEq, Repr

/-- A pattern. -/
abbrev Pattern := List Mark

namespace Pattern

/-- Whether a mark stands for a character. -/
def admits : Mark → Char → Bool
  | .char d, c => c == d
  | .anyOne, _ => true
  | .anyRun, _ => true
  | .oneOf within ranges, c => (ranges.any fun r => r.1 ≤ c && c ≤ r.2) == within

/-- Whether a pattern stands for some characters. -/
def covers : Pattern → List Char → Bool
  | [], cs => cs.isEmpty
  | .anyRun :: marks, cs => (List.range (cs.length + 1)).any fun n => covers marks (cs.drop n)
  | _ :: _, [] => false
  | mark :: marks, c :: cs => admits mark c && covers marks cs

/-- The ranges of characters with a name. -/
def namedRanges : List (String × List (Char × Char)) :=
  [("alpha", [('a', 'z'), ('A', 'Z')]), ("digit", [('0', '9')]),
    ("alnum", [('a', 'z'), ('A', 'Z'), ('0', '9')]), ("upper", [('A', 'Z')]), ("lower", [('a', 'z')]),
    ("space", [('\t', '\r'), (' ', ' ')]), ("blank", [('\t', '\t'), (' ', ' ')]),
    ("punct", [('!', '/'), (':', '@'), ('[', Char.ofNat 0x60), ('\x7b', '~')]),
    ("print", [(' ', '~')]), ("graph", [('!', '~')]), ("cntrl", [('\x00', '\x1f'), ('\x7f', '\x7f')]),
    ("xdigit", [('0', '9'), ('a', 'f'), ('A', 'F')])]

/-- A character, and whether it is quoted. -/
abbrev Written := Char × Bool

/-- The ranges in brackets up to the closing one, and what follows it. -/
def bracketRanges : Nat → Bool → List Written → Option (List (Char × Char) × List Written)
  | 0, _, _ | _, _, [] => none
  | fuel + 1, first, (c, quoted) :: rest =>
    if c == ']' && !quoted && !first then some ([], rest)
    else
      let more (ranges : List (Char × Char)) (rest : List Written) :=
        (bracketRanges fuel false rest).map fun r => (ranges ++ r.1, r.2)
      match c, rest with
      | '[', (':', _) :: name =>
        let letters := (name.takeWhile fun w => w.1 != ':').map (·.1)
        match namedRanges.lookup (String.ofList letters), name.drop letters.length with
        | some ranges, (':', _) :: (']', _) :: rest => more ranges rest
        | _, _ => more [('[', '[')] rest
      | c, ('-', false) :: (d, dQuoted) :: behind =>
        if d == ']' && !dQuoted then more [(c, c)] rest else more [(c, d)] behind
      | c, rest => more [(c, c)] rest

/-- The pattern that characters make up. -/
def ofWritten : Nat → List Written → Pattern
  | 0, _ | _, [] => []
  | fuel + 1, ('*', false) :: rest => .anyRun :: ofWritten fuel rest
  | fuel + 1, ('?', false) :: rest => .anyOne :: ofWritten fuel rest
  | fuel + 1, ('[', false) :: rest =>
    let (within, inside) := match rest with
      | ('!', false) :: inside | ('^', false) :: inside => (false, inside)
      | _ => (true, rest)
    match bracketRanges (inside.length + 1) true inside with
    | some (ranges, behind) => .oneOf within ranges :: ofWritten fuel behind
    | none => .char '[' :: ofWritten fuel rest
  | fuel + 1, ('\\', false) :: (c, _) :: rest => .char c :: ofWritten fuel rest
  | fuel + 1, (c, _) :: rest => .char c :: ofWritten fuel rest

/-- The pattern that characters make up. -/
def of (written : List Written) : Pattern := ofWritten (written.length + 1) written

/-- Whether characters hold one with a meaning in patterns. -/
def isSpecial (written : List Written) : Bool :=
  written.any fun w => !w.2 && (w.1 == '*' || w.1 == '?' || w.1 == '[')

/-- What is left of a text without the part at one end that a pattern stands for; the longest or
the shortest such part counts. -/
def trim (pattern : Pattern) (atEnd longest : Bool) (cs : List Char) : List Char :=
  let counts := List.range (cs.length + 1)
  let kept := if longest == atEnd then counts else counts.reverse
  match kept.find? fun n => pattern.covers (if atEnd then cs.drop n else cs.take n) with
  | some n => if atEnd then cs.take n else cs.drop n
  | none => cs

end Pattern

end RecallShell.Machine
