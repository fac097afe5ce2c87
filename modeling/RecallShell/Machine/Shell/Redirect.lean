import RecallShell.Machine.Shell.Expansion

/-!
# Redirections at work

A redirection opens what its target names, or makes a descriptor lead where another one does. The
redirections of a command are carried out in turn, until one of them cannot be. What descriptors led
to before is kept under descriptors of greater numbers, to be had back behind the command.
-/

namespace RecallShell.Machine

open Text

/-- A redirection whose target has been expanded. -/
structure Opening where
  /-- The descriptor. -/
  descriptor : Nat
  /-- How it changes. -/
  kind : Redirection
  /-- What the target stands for. -/
  target : String
  deriving DecidableEq, Repr

/-- A descriptor and the one under which it is kept, if it was open. -/
structure Kept where
  /-- The descriptor. -/
  descriptor : Nat
  /-- The one under which it is kept. -/
  place : Option Nat
  deriving DecidableEq, Repr

namespace Sh

/-- The text of a word in one piece. -/
def textOf (engine : Engine) (w : Word) : Sh String := do
  return Shred.text (← expandPieces engine false true false w)

/-- The fields that shreds stand for. -/
def fieldsFrom (shreds : List Shred) : Sh (List String) := do
  let s ← get
  let fields := fieldsOf s.separators shreds
  if s.has 'f' || !fields.any Pattern.isSpecial then return fields.map fieldText
  else
    let d ← disk
    return fields.flatMap (matchesFor d)

/-- Whether a text names a descriptor. -/
def namesDescriptor (text : String) : Bool :=
  text == "-" || (text.toList.all Char.isDigit && text.length == 1)

/-- Expands the target of a redirection. -/
def openingOf (engine : Engine) : Redirect → Sh Opening
  | .of descriptor .document target => do
    return ⟨descriptor, .document, Shred.text (← expandPieces engine false false false target)⟩
  | .of descriptor kind target => do
    let text ← textOf engine target
    if kind == .duplicate && !namesDescriptor text then fault "Syntax error: Bad fd number"
    return ⟨descriptor, kind, text⟩

/-- What is said of a file that cannot be opened. -/
def openComplaint (reads : Bool) (target : String) (cause : Errno) : String :=
  let missing := if reads then "No such file" else "Directory nonexistent"
  let text := if cause = .noEntry || cause = .notDirectory then missing else cause.text
  if reads then s!"cannot open {target}: {text}" else s!"cannot create {target}: {text}"

/-- Keeps a descriptor under a greater one. -/
def keep (descriptor : Nat) : Sh Kept := do
  let place ← (Act.step fun pid w =>
    match w.opening? pid descriptor with
    | none => (none, w)
    | some _ =>
      let place := w.freeDescriptor pid 10
      (some place, (w.duplicate pid descriptor place true).2) : Act _)
  return ⟨descriptor, place⟩

/-- Lets descriptors lead where they led before. -/
def giveBackAll : List Kept → Sh Unit
  | [] => pure ()
  | k :: rest => do
    (Act.change fun pid w =>
      match k.place with
      | some place => (w.duplicate pid place k.descriptor false).2.close pid place
      | none => w.close pid k.descriptor : Act Unit)
    giveBackAll rest

/-- Lets descriptors lead where they lead now for good. -/
def forgetAll (kept : List Kept) : Sh Unit := do
  (Act.change fun pid w => kept.foldl (fun w k =>
    match k.place with
    | some place => w.close pid place
    | none => w) w : Act Unit)

/-- Lets a descriptor lead where another one does, which is closed. -/
def moveTo (source target : Nat) : Sh Unit := do
  if source != target then
    (Act.change fun pid w => (w.duplicate pid source target false).2.close pid source : Act Unit)

/-- The greatest number of octets that a shell leaves in a pipe by itself. -/
def pipeRoom : Nat := 4096

/-- Opens a text for reading. -/
def openText (text : String) : Sh Nat := do
  let (input, output) ← (Act.step fun pid w => w.pipe pid : Act _)
  if text.length ≤ pipeRoom then
    discard <| (Act.write output text : Act _)
  else
    let writer : Act Unit := do
      Act.close input
      discard <| Act.write output text
      Act.exit 0
    discard <| (Act.fork (writer.run fun _ => .ended (.code 0)) : Act Pid)
  (Act.close output : Act Unit)
  return input

/-- How a file is opened for a redirection. -/
def accessFor : Redirection → Access
  | .input | .document | .duplicate => .input
  | .output | .override => .output
  | .behind => .behind
  | .update => .update

/-- Opens a file for a redirection; one that is there may be protected. -/
def openFor (kind : Redirection) (path : String) : Sh (Except Errno Nat) := do
  let access := accessFor kind
  if kind == .output && (← get).has 'C' then
    let d ← disk
    let isFile := match d.status true (ofOctets path) with
      | .ok id => match (d.node id).body with
        | .file _ => true
        | _ => false
      | .error _ => false
    if isFile then return .error .alreadyExists
  (Act.open_ path access : Act _)

/-- Carries out a redirection: the descriptor that was kept, or what is wrong. -/
def redirect (o : Opening) : Sh (Except String (List Kept)) := do
  match o.kind with
  | .duplicate =>
    if o.target == toString o.descriptor then return .ok []
    let kept ← keep o.descriptor
    if o.target == "-" then
      (Act.close o.descriptor : Act Unit)
      return .ok [kept]
    else
      let r ← (Act.step fun pid w =>
        w.duplicate pid (o.target.toNat?.getD 0) o.descriptor false : Act _)
      match r with
      | .ok () => return .ok [kept]
      | .error e => do
        giveBackAll [kept]
        return .error s!"{o.target}: {e.text}"
  | .document => do
    let input ← openText o.target
    if input == o.descriptor then return .ok [⟨o.descriptor, none⟩]
    let kept ← keep o.descriptor
    moveTo input o.descriptor
    return .ok [kept]
  | kind =>
    match ← openFor kind o.target with
    | .error e => return .error (openComplaint (kind == .input) o.target e)
    | .ok opened => do
      if opened == o.descriptor then return .ok [⟨o.descriptor, none⟩]
      let kept ← keep o.descriptor
      moveTo opened o.descriptor
      return .ok [kept]

/-- Carries out redirections in turn: the descriptors that were kept, the last one first, and what is
wrong with one that cannot be carried out. -/
def redirectAll : List Opening → List Kept → Sh (List Kept × Option String)
  | [], kept => return (kept, none)
  | o :: rest, kept => do
    match ← redirect o with
    | .ok more => redirectAll rest (more ++ kept)
    | .error text => return (kept, some text)

end Sh

end RecallShell.Machine
