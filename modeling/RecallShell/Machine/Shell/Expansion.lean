import RecallShell.Machine.Shell.Arithmetic
import RecallShell.Machine.Shell.Field
import RecallShell.Machine.Shell.State

/-!
# Expansion of words

The pieces of a word are expanded from left to right, and what they do on the way is done in the
shell: variables are set, and statements are run whose output is wanted. How statements are run is
handed in. Where a word is expanded in full it falls apart into fields; elsewhere it is one text.
-/

namespace RecallShell.Machine

open Text

/-- How expansion runs statements. -/
structure Engine where
  /-- Runs statements for what they write. -/
  capture : List Statement → Sh String

/-- What a parameter stands for. -/
inductive Found where
  /-- It has no value. -/
  | missing
  /-- A text. -/
  | one (text : String)
  /-- Several texts, which can be joined to one. -/
  | several (texts : List String) (joined : Bool)
  deriving DecidableEq, Repr

namespace Found

/-- Changes each text. -/
def map (f : String → String) : Found → Found
  | .missing => .missing
  | .one text => .one (f text)
  | .several texts joined => .several (texts.map f) joined

/-- Whether there is no value, or nothing but an empty one. -/
def isMissing (orEmpty : Bool) : Found → Bool
  | .missing => true
  | .one text => orEmpty && text.isEmpty
  | .several texts _ => texts.isEmpty || (orEmpty && texts.all String.isEmpty)

end Found

namespace Sh

/-! ## Arithmetic -/

/-- The process ends because the machine cannot go on. -/
def crash {α : Type} : Sh α := do
  (Act.change fun pid w => w.hit pid Signal.arithmetic : Act Unit)
  throw .exits

/-- The value of an expression; variables are set as it says. -/
def arithmetic (expression : String) : Sh Int := do
  let s ← get
  match Arithmetic.value ⟨s.dialect, fun name => (s.value? name).getD ""⟩ expression with
  | .ok (n, assigned) => do
    assigned.forM fun a => assign a.1 (toString a.2)
    return n
  | .error .crash => crash
  | .error e => fault (e.text expression)

/-! ## Parameters -/

/-- Gives up because a parameter has no value. -/
def refuseMissing {α : Type} (name text : String) : Sh α := do
  if (← get).isRich then
    warn s!"{name}: {text}"
    flush
    setStatus notFound
    throw .exits
  else fault s!"{name}: {text}"

/-- Gives up because a parameter has no value where it must have one. -/
def refuseUnset {α : Type} (name : String) : Sh α := refuseMissing name "parameter not set"

/-- What a parameter stands for, or what an index picks from its list. -/
def lookup (s : Shell) (name : String) (index : Option String) : Found :=
  let elements := ((s.binding? name).map Binding.elements).getD []
  match name, index with
  | "@", none => .several s.params false
  | "*", none => .several s.params true
  | _, some "@" => .several elements false
  | _, some index => ((index.toNat?.bind (elements[·]?)).map Found.one).getD .missing
  | name, none => ((s.value? name).map Found.one).getD .missing

/-- The text that a parameter's value is as one. -/
def textFrom (s : Shell) : Found → String
  | .missing => ""
  | .one text => text
  | .several texts _ => s.joint.intercalate texts

/-- The shreds of a parameter's value. -/
def shredsFrom (s : Shell) (full quoted : Bool) (found : Found) : List Shred :=
  match found with
  | .missing => Shred.ofValue quoted ""
  | .one text => Shred.ofValue quoted text
  | .several texts joined =>
    if full && (!quoted || !joined) then
      Shred.ofValues quoted (if quoted then texts else texts.filter fun t => !t.isEmpty)
    else Shred.ofValue quoted (textFrom s found)

/-- The part of a text from some place on, and so many characters of it at most; places below zero
count from the end. -/
def partOf (first : Int) (count : Option Int) (text : String) : String :=
  let cs := text.toList
  let rest := cs.drop (if first < 0 then cs.length + first else first).toNat
  String.ofList (match count with
    | some n => rest.take n.toNat
    | none => rest)

/-- Characters with the first match of a pattern replaced, as long a one as there is. -/
def replaceFirst (pattern : Pattern) (replacement : List Char) : List Char → List Char
  | [] => []
  | c :: cs =>
    match (List.range (cs.length + 1)).reverse.find? fun n => pattern.covers (c :: cs.take n) with
    | some n => replacement ++ cs.drop n
    | none => c :: replaceFirst pattern replacement cs

/-! ## Pieces -/

/-- The home directory of a user. -/
def homeOf? (user : String) : Option String :=
  (Disk.users.find? fun u => u.1 == user).map fun u => u.2.2.2.1

/-- The directory that a tilde with some characters behind it stands for. -/
def tilde? (s : Shell) (name : List Char) : Option String :=
  match name with
  | [] => s.textOf? "HOME"
  | name => homeOf? (String.ofList name)

/-- The characters behind a tilde that belong to it, and what follows them. -/
def tildeName (colons : Bool) : List Atom → List Char × List Atom
  | .char c false :: rest =>
    if c == '/' || (colons && c == ':') then ([], .char c false :: rest)
    else let r := tildeName colons rest; (c :: r.1, r.2)
  | rest => ([], rest)

/-- A word with directories in place of tildes at its start and, in settings, behind colons. -/
def withHomes (s : Shell) (colons : Bool) : Bool → List Atom → List Atom
  | true, .char '~' false :: rest =>
    let (name, behind) := tildeName colons rest
    let ends := match behind with
      | [] | .char _ false :: _ => true
      | _ => false
    match if ends then tilde? s name else none with
    | some home =>
      (home.toList.map fun c => .char c true) ++
        withHomes s colons false (rest.drop name.length)
    | none => .char '~' false :: withHomes s colons false rest
  | _, .char ':' false :: rest => .char ':' false :: withHomes s colons colons rest
  | _, atom :: rest => atom :: withHomes s colons false rest
  | _, [] => []
  termination_by _ atoms => atoms.length

/-- The shreds of characters that are not quoted, with directories in place of tildes: at the start if
asked for, and behind colons if asked for. -/
def textShreds (s : Shell) (start colons isLast : Bool) (chars : List Char) : List Shred :=
  let shredOf : Atom → Shred
    | .char c quoted => .char c quoted false
    | .piece _ => .quotes
  if (start || colons) && chars.contains '~' then
    let sentinel := if isLast then [] else [Atom.char '~' true]
    let atoms := withHomes s colons start (chars.map (fun c => Atom.char c false) ++ sentinel)
    (if isLast then atoms else atoms.dropLast).map shredOf
  else chars.map fun c => .char c false false

variable (engine : Engine)

mutual

/-- The shreds of what is made of a parameter. -/
def expandForm (full quoted : Bool) (name : String) (found : Found) : Form → Sh (List Shred)
  | .value => do
    let s ← get
    if found == .missing && s.has 'u' then refuseUnset name
    return shredsFrom s full quoted found
  | .length => do
    let s ← get
    let n ← match found with
      | .several texts _ => pure texts.length
      | .one text => pure text.length
      | .missing => do
        if s.has 'u' then refuseUnset name
        pure 0
    return Shred.ofValue quoted (toString n)
  | .orElse fallback orEmpty word => do
    let missing := found.isMissing orEmpty
    let replaced : Sh (List Shred) := do
      let shreds ← expandPieces full true false word
      return if quoted then .quotes :: shreds else shreds.map Shred.splitting
    match fallback, missing with
    | .standIn, true | .alternative, false => replaced
    | .alternative, true => return if quoted then [.quotes] else []
    | .assign, true => do
      let text := Shred.text (← expandPieces false true false word)
      if !isName name.toList then fault s!"{name}: bad variable name"
      assign name text
      return Shred.ofValue quoted text
    | .complain, true => do
      if word.isEmpty then
        refuseMissing name (if orEmpty then "parameter not set or null" else "parameter not set")
      let text := Shred.text (← expandPieces false true false word)
      refuseMissing name text
    | _, false => return shredsFrom (← get) full quoted found
  | .trimmed atEnd longest pattern => do
    if found == .missing && (← get).has 'u' then refuseUnset name
    let pattern := Shred.pattern (← expandPieces false true false pattern)
    let s ← get
    let trim (text : String) : String := String.ofList (pattern.trim atEnd longest text.toList)
    let found : Found := match found with
      | .several .. => .one (textFrom s found)
      | found => found
    return shredsFrom s full quoted (found.map trim)
  | .part first count => do
    let n ← arithmetic (Shred.text (← expandPieces false false false first))
    let size? ← match count with
      | some w => do pure (some (← arithmetic (Shred.text (← expandPieces false false false w))))
      | none => pure none
    return shredsFrom (← get) full quoted (found.map (partOf n size?))
  | .replaced pattern replacement => do
    let pattern := Shred.pattern (← expandPieces false true false pattern)
    let replacement := (Shred.text (← expandPieces false false false replacement)).toList
    let change (text : String) : String := String.ofList (replaceFirst pattern replacement text.toList)
    return shredsFrom (← get) full quoted (found.map change)
  | .upper => do return shredsFrom (← get) full quoted (found.map String.toUpper)
  | .unknown => fault "Bad substitution"

/-- The shreds of a part of a word, in which tildes may stand for directories. -/
def expandPiece (full start colons isLast : Bool) : Piece → Sh (List Shred)
  | .text chars quoted => do
    if quoted then return .quotes :: chars.map fun c => Shred.char c true false
    else return textShreds (← get) start colons isLast chars
  | .parameter name index form quoted => do
    expandForm full quoted name (lookup (← get) name index) form
  | .output body quoted => do return Shred.ofValue quoted (← engine.capture body)
  | .arithmetic expression quoted => do
    let text := Shred.text (← expandPieces false false false expression)
    return Shred.ofValue quoted (toString (← arithmetic text))

/-- The shreds of the parts of a word, in which tildes may stand for directories: at its start, and
behind colons. -/
def expandPieces (full start colons : Bool) : List Piece → Sh (List Shred)
  | [] => return []
  | piece :: pieces => do
    let first ← expandPiece full start colons pieces.isEmpty piece
    return first ++ (← expandPieces full false colons pieces)

end

end Sh

end RecallShell.Machine
