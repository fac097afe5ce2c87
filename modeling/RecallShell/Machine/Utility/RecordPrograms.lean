import RecallShell.Machine.Records
import RecallShell.Machine.Utility.Source

/-!
# Programs for records as utilities

A program is given as an argument or in files. The other arguments are the files that its lines are
in, or else the lines are those of the standard input.
-/

namespace RecallShell.Machine

namespace Records

open Text Work

/-- What a program is working on. -/
structure RecordRun where
  /-- What separates fields, if it is not blanks. -/
  separator : Option Char
  /-- The line. -/
  line : String := ""
  /-- What the variables hold. -/
  values : List (String × Value) := []

/-- A part of a program's work. -/
abbrev RecordWork := StateT RecordRun Work

namespace RecordRun

/-- The fields of the line. -/
def fields (r : RecordRun) : List String :=
  match r.separator with
  | some c => if r.line.isEmpty then [] else r.line.splitToList (· == c)
  | none => (r.line.splitToList Char.isWhitespace).filter fun word => !word.isEmpty

/-- Puts a value into a variable. -/
def put (r : RecordRun) (name : String) (value : Value) : RecordRun :=
  { r with values := (name, value) :: r.values.filter fun v => v.1 != name }

/-- What a variable holds. -/
def held (r : RecordRun) (name : String) : Value := (r.values.lookup name).getD .unset

/-- Goes on to the next line. -/
def next (r : RecordRun) (line : String) : RecordRun :=
  let r := { r with line }
  (r.put "NR" (.number ((r.held "NR").toNumber + 1))).put "NF" (.number r.fields.length)

end RecordRun

namespace RecordWork

/-- What an expression comes to. -/
def evaluate : Expr → RecordWork Value
  | .value v => return v
  | .variable name => return (← get).held name
  | .field number => do
    let r ← get
    return match (← evaluate number).toNumber with
      | 0 => .text r.line
      | n => if n < 0 then .unset else (r.fields[n.toNat - 1]?.map Value.text).getD .unset
  | .assign name operation value => do
    let given ← evaluate value
    let held := (← get).held name
    let v : Value := match operation with
      | none => given
      | some o => .number (o.apply held.toNumber given.toNumber)
    modify fun r => r.put name v
    return v
  | .operate operation left right => do
    let l ← evaluate left
    return .number (operation.apply l.toNumber (← evaluate right).toNumber)

/-- Values written in a format: a number for `%d`, a text for `%s`, a percent sign for two. -/
def formatted : List Char → List Value → List Char
  | [], _ => []
  | '%' :: '%' :: cs, vs => '%' :: formatted cs vs
  | '%' :: 'd' :: cs, vs => (toString (vs.headD .unset).toNumber).toList ++ formatted cs vs.tail
  | '%' :: 's' :: cs, vs => (vs.headD .unset).toText.toList ++ formatted cs vs.tail
  | c :: cs, vs => c :: formatted cs vs

/-- Does what a statement says; says whether lines are done with. -/
def perform : Statement → RecordWork Bool
  | .compute value => do
    discard <| evaluate value
    return false
  | .print [] => do
    (sayLine (← get).line : Work Unit)
    return false
  | .print values => do
    (sayLine (" ".intercalate ((← values.mapM evaluate).map Value.toText)) : Work Unit)
    return false
  | .printf values => do
    match ← values.mapM evaluate with
    | [] => return false
    | format :: vs => do
      (say (String.ofList (formatted format.toText.toList vs)) : Work Unit)
      return false
  | .exit => return true

/-- Does what statements say, up to one with which lines are done. -/
def performAll : List Statement → RecordWork Bool
  | [] => return false
  | statement :: rest => do if ← perform statement then return true else performAll rest

/-- Does what rules say at the present occasion, up to a statement with which lines are done. -/
def follow (isMeant : Occasion → RecordWork Bool) : List Rule → RecordWork Bool
  | [] => return false
  | rule :: rest => do
    let stops ← if ← isMeant rule.occasion then performAll rule.body else pure false
    if stops then return true else follow isMeant rest

/-- Whether something is to be done with the line. -/
def isForLine : Occasion → RecordWork Bool
  | .every => return true
  | .holding test => return (← evaluate test).isTrue
  | .start | .finish => return false

/-- Whether something is to be done before the first line. -/
def isForStart : Occasion → RecordWork Bool
  | .start => return true
  | _ => return false

/-- Whether something is to be done behind the last line. -/
def isForFinish : Occasion → RecordWork Bool
  | .finish => return true
  | _ => return false

/-- Goes through the lines of files in turn, up to one that cannot be opened. -/
def goThroughAll (rules : List Rule) : List String → RecordWork Unit
  | [] => return
  | path :: paths => do
    match ← (openInput path : Work _) with
    | .error e => (die s!"cannot open {path} ({e.text})" 2 : Work Unit)
    | .ok descriptor => do
      let each (r : RecordRun) (line : String) (_ : Bool) : Work (RecordRun × Bool) := do
        let (stops, r) ← (follow isForLine rules).run (r.next line)
        return (r, !stops)
      let (r, result) ← (foldLines descriptor each Act.endless "" (← get) : Work _)
      set r
      (closeInput descriptor : Work Unit)
      match result with
      | .ok (some _) => return
      | _ => goThroughAll rules paths

/-- Does what rules say, with all lines of files. -/
def runAll (rules : List Rule) (paths : List String) : RecordWork Unit := do
  let stopped ← follow isForStart rules
  let readsLines := rules.any fun rule => match rule.occasion with
    | .start => false
    | _ => true
  if !stopped && readsLines then goThroughAll rules paths
  discard <| follow isForFinish rules

end RecordWork

end Records

open Work Records

/-- Runs a program over the lines of files. -/
def awk : Utility := fun i => do
  let table : OptionTable := .of "" "Ff" []
  table.run i.args 2 fun a => do
    let separator := (a.value? 'F').bind fun text => if text == " " then none else text.toList.head?
    let (place, text, paths) ← match a.value? 'f', a.operands with
      | some path, paths => do
        match ← contentOf path with
        | .error e => die s!"couldn't open {path} ({e.text})" 2
        | .ok text => pure (s!"{path}: ", text, paths)
      | none, text :: paths => pure ("", text ++ "\n", paths)
      | none, [] => exit 0
    match readRules text with
    | .error complaints => complaints.forM fun (line, what) => complain s!"{place}line {line}: {what}" 2
    | .ok rules =>
      discard <| (RecordWork.runAll rules (if paths.isEmpty then ["-"] else paths)).run { separator }

end RecallShell.Machine
