import RecallShell.Machine.Digest
import RecallShell.Machine.Utility.Source

/-!
# Utilities for digests

A line for each file gives its digest and its name, or its cyclic sum, its size and its name.
-/

namespace RecallShell.Machine

open Text Work

/-- A name with escapes for what would end a line, and whether it has any. -/
def escapedName (name : String) : String × Bool :=
  let escaped := name.toList.flatMap fun c =>
    match c with
    | '\\' => ['\\', '\\']
    | '\n' => ['\\', 'n']
    | '\r' => ['\\', 'r']
    | c => [c]
  (String.ofList escaped, escaped.length != name.length)

/-- Writes a line for each file, which its content and its name make up. -/
def summing (line : Bytes → String → String) : Utility := fun i =>
  let table : OptionTable := .of "" "" []
  table.run i.args 1 fun a =>
    forEach (sources a) fun path => do
      match ← contentOf path with
      | .ok text => sayLine (line (ofOctets text) (if a.operands.isEmpty then "" else path))
      | .error e => complain (unreadable path e) 1

/-- Writes digests. -/
def digests (digest : Bytes → Bytes) : Utility :=
  summing fun content path =>
    let (shown, escaped) := escapedName (if path.isEmpty then "-" else path)
    let mark := if escaped then "\\" else ""
    s!"{mark}{Digest.inHex (digest content)}  {shown}"

/-- Writes cyclic sums. -/
def cksum : Utility :=
  summing fun content path =>
    let name := if path.isEmpty then "" else " " ++ path
    s!"{Digest.cyclic content} {content.length}{name}"

end RecallShell.Machine
