import RecallShell.Machine.Utility.Source

/-!
# Copying in blocks and cutting into files

`dd` copies blocks of a size, a number of them at most, and reports on it. `split` cuts content into
files of so many lines whose names count on.
-/

namespace RecallShell.Machine

open Text Work

/-! ## Blocks -/

/-- What a copy in blocks is asked for. -/
structure BlockCopy where
  /-- The file that is read, if it is not the standard input. -/
  source : Option String := none
  /-- The size of a block. -/
  size : Nat := 512
  /-- The number of blocks at most. -/
  count : Option Nat := none
  /-- Whether nothing is reported. -/
  silent : Bool := false

namespace BlockCopy

/-- A copy as one more argument asks for it. -/
def with_ (p : BlockCopy) (arg : String) : Work BlockCopy := do
  let value := String.ofList ((arg.toList.dropWhile (· != '=')).drop 1)
  let number (least : Nat) : Work Nat := do
    match (multiplied? value).filter (least ≤ ·) with
    | some n => return n
    | none => die s!"invalid number: {Quoting.always value}" 1
  if arg.startsWith "if=" then return { p with source := some value }
  else if arg.startsWith "bs=" then return { p with size := ← number 1 }
  else if arg.startsWith "count=" then return { p with count := some (← number 0) }
  else if arg == "status=none" then return { p with silent := true }
  else misused s!"unrecognized operand {Quoting.always arg}" 1

/-- Copies block by block, until enough is copied or nothing is left; says how many blocks were full
and how many were not. -/
def run (p : BlockCopy) (input : Nat) : Nat → Nat × Nat → Work (Nat × Nat)
  | 0, done => return done
  | turns + 1, (full, part) => do
    if p.count.any (· ≤ full + part) then return (full, part)
    match ← read input p.size with
    | .error e => do
      let name := p.source.getD "standard input"
      complain (because s!"error reading {Quoting.always name}" e) 1
      return (full, part)
    | .ok text =>
      if text.isEmpty then return (full, part)
      match ← (Act.write 1 text : Act _) with
      | .error e => die (because "error writing 'standard output'" e) 1
      | .ok () =>
        run p input turns (if text.length == p.size then (full + 1, part) else (full, part + 1))

end BlockCopy

/-- Copies in blocks. -/
def dd : Utility := fun i =>
  let table : OptionTable := .of "" "" []
  table.run i.args 1 fun a => do
    let p ← a.operands.foldlM (fun p arg => p.with_ arg) ({} : BlockCopy)
    let path := p.source.getD "-"
    match ← openInput path with
    | .error e => die (because s!"failed to open {Quoting.always path}" e) 1
    | .ok input => do
      let (full, part) ← p.run input Act.endless (0, 0)
      if !p.silent then sayError s!"{full}+{part} records in\n{full}+{part} records out\n"

/-! ## Cutting into files -/

/-- The letters that so many files before a file leave for its name. -/
def splitSuffix (n : Nat) : String :=
  let letter (k : Nat) : Char := Char.ofNat ('a'.toNat + k % 26)
  String.ofList [letter (n / 26), letter n]

/-- Puts lines together, so many at a time. -/
def joinLinesBy (count : Nat) : Nat → List String → List String
  | 0, _ | _, [] => []
  | fuel + 1, lines => String.join (lines.take count) :: joinLinesBy count fuel (lines.drop count)

/-- Writes pieces to files whose names count on, behind so many files. -/
def writePieces (start : String) : Nat → List String → Work Unit
  | _, [] => pure ()
  | n, piece :: rest => do
    if 26 * 26 ≤ n then die "output file suffixes exhausted" 1
    let path := start ++ splitSuffix n
    match ← writeFile path piece with
    | .ok () => writePieces start (n + 1) rest
    | .error e => die (because (Quoting.ifNeeded path) e) 1

/-- Cuts content into files. -/
def split : Utility := fun i =>
  let table : OptionTable := .of "" "l" [("lines", 'l')]
  table.run i.args 1 fun a => do
    let text := (a.value? 'l').getD "1000"
    let count ← match (multiplied? text).filter (0 < ·) with
      | some n => pure n
      | none => die s!"invalid number of lines: {← quote text}" 1
    let (path, start) ← match a.operands with
      | [] => pure ("-", "x")
      | [path] => pure (path, "x")
      | [path, start] => pure (path, start)
      | _ :: _ :: extra :: _ => misused s!"extra operand {← quote extra}" 1
    match ← contentOf path with
    | .error e => die (because s!"cannot open {Quoting.always path} for reading" e) 1
    | .ok text =>
      let lines := linesWithEnds text
      writePieces start 0 (joinLinesBy count lines.length lines)

end RecallShell.Machine
