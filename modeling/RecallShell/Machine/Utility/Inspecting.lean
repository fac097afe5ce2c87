import RecallShell.Machine.Utility.Files

/-!
# Inspecting files

What is known about a file is written in a format, the room that directories take is added up, and
paths are followed to where they lead.
-/

namespace RecallShell.Machine

open Text Work

/-! ## Facts in a format -/

/-- What a letter of a format says about a file. -/
def factOf (path : String) (n : Node) : Char → String
  | 'n' => path
  | 'a' => String.ofList (Nat.toDigits 8 n.mode)
  | 'F' => kindOf n
  | 'h' => toString n.links
  | 's' => toString (sizeOf_ n)
  | '%' => "%"
  | _ => "?"

/-- Facts about a file in a format. -/
def factsIn (path : String) (n : Node) : List Char → String
  | '%' :: letter :: cs => factOf path n letter ++ factsIn path n cs
  | c :: cs => c.toString ++ factsIn path n cs
  | [] => ""

/-- Writes what is known about files in the format that is given. -/
def stat : Utility := fun i =>
  let table : OptionTable := .of "L" "c" [("dereference", 'L'), ("format", 'c')]
  table.run i.args 1 fun a => do
    if a.operands.isEmpty then misused "missing operand" 1
    let format := (a.value? 'c').getD "%n %s %a %F %h"
    forEach a.operands fun path => do
      match ← statusOf (a.has 'L') path with
      | .error e => complain (because s!"cannot statx {Quoting.always path}" e) 1
      | .ok (_, n) => sayLine (factsIn path n format.toList)

/-! ## Room -/

/-- Adds up what lies under a path, apart from nodes that were met: the sizes, or the room that they
take. The sums for directories are written, and the nodes that have been met are given back. -/
def addUp (sizes : Bool) : Nat → Bool → List NodeId → String → Work (Nat × List NodeId)
  | 0, _, met, _ => return (0, met)
  | depth + 1, named, met, path => do
    match ← statusOf false path with
    | .error e => do
      complain (because s!"cannot access {Quoting.always path}" e) 1
      return (0, met)
    | .ok (id, n) =>
      if met.contains id then return (0, met)
      let own := if sizes then (match n.body with | .file _ | .link _ => sizeOf_ n | _ => 0)
        else roomOf n
      let d ← disk
      let names := if n.isDirectory then (d.namesIn id).map octets else []
      let (sum, met) ← names.foldlM (fun (sum, met) name => do
        let (room, met) ← addUp sizes depth false met (within path name)
        return (sum + room, met)) (own, id :: met)
      let shown := if sizes then sum else unitsOf 1024 sum
      if named || n.isDirectory then sayLine s!"{shown}\t{path}"
      return (sum, met)

/-- Adds up the room that files take. -/
def du : Utility := fun i =>
  let table : OptionTable := .of "b" "" [("bytes", 'b')]
  table.run i.args 1 fun a => do
    let paths := if a.operands.isEmpty then ["."] else a.operands
    discard <| paths.foldlM (fun met path => do
      return (← addUp (a.has 'b') maxDepth true met path).2) ([] : List NodeId)

/-! ## Where paths lead -/

/-- The names on the way from the root to a place. -/
def namesOf (d : Disk) : Disk.Place → List String
  | .within directory => (d.climb maxPath directory []).map octets
  | .named directory name => (d.climb maxPath directory []).map octets ++ [octets name]

/-- The names on the way to where a path leads, or why it leads nowhere; its last name may be that of
nothing. -/
def leadsTo (d : Disk) (path : String) : Except Errno (List String) := do
  if path.isEmpty then throw .noEntry
  let place ← d.resolve true (ofOctets path)
  let isPlain := (d.at? place).any fun id => !(d.node id).isDirectory
  if path.endsWith "/" && isPlain then throw .notDirectory
  return namesOf d place

/-- How a path leads to another one from a directory. -/
def relativePath (start target : List String) : String :=
  let shared := ((start.zip target).takeWhile fun p => p.1 == p.2).length
  let up := List.replicate (start.length - shared) ".."
  let parts := up ++ target.drop shared
  if parts.isEmpty then "." else "/".intercalate parts

/-- Writes what links lead to. -/
def readlink : Utility := fun i =>
  let table : OptionTable := .of "" "" []
  table.run i.args 1 fun a => do
    if a.operands.isEmpty then misused "missing operand" 1
    forEach a.operands fun path => do
      match (← statusOf false path).toOption.bind fun found => targetOf? found.2 with
      | some target => sayLine target
      | none => fail 1

/-- Writes where paths lead in the end, from the root or from a directory. -/
def realpath : Utility := fun i =>
  let table : OptionTable := .of "" "ⓣ" [("relative-to", 'ⓣ')]
  table.run i.args 1 fun a => do
    if a.operands.isEmpty then misused "missing operand" 1
    let d ← disk
    let lead (path : String) : Work (List String) := do
      match leadsTo d path with
      | .ok names => return names
      | .error e => die (unreadable path e) 1
    let start? ← (a.value? 'ⓣ').mapM lead
    forEach a.operands fun path => do
      match leadsTo d path with
      | .error e => complain (unreadable path e) 1
      | .ok names =>
        sayLine <| match start? with
          | some start => relativePath start names
          | none => "/" ++ "/".intercalate names

end RecallShell.Machine
