import RecallShell.Host.Script
import RecallShell.Input

/-!
# Hosts with piped input

Lines that do not come from a terminal are read from buffered input, each behind a prompt written
to the output. Writing the prompt may fail; the line is read all the same.
-/

namespace RecallShell

open Text

/-- What the bytes of a line that was read come to; a line without bytes is the end of the
stream. -/
def ReadOutcome.ofBytes (bs : Bytes) : ReadOutcome :=
  if bs.isEmpty then .endOfStream else .line (String.ofList (chomp (decodeChars bs)))

/-- What reading a line of buffered input came to. -/
def ReadOutcome.ofRead : Except IoError Bytes → ReadOutcome
  | .ok bs => .ofBytes bs
  | .error cause => if cause.isInterruption then .interrupted else .failed cause

/-- Writes a prompt; failing at that is worth a warning. -/
def Console.promptFor (c : Console) (prompt : String) : Console :=
  match c.emitPrompt prompt with
  | (.ok (), c) => c
  | (.error cause, c) => c.warn s!"cannot write prompt: {cause.text}"

/-- Writes a prompt and reads a line. -/
def readPrompted (prompt : String) (input : Input) (c : Console) : ReadOutcome × Input × Console :=
  (.ofRead input.readLine.1, input.readLine.2, c.promptFor prompt)

namespace Input

/-- Gathering a line never leaves more to read, and leaves less unless the line is empty. -/
theorem remaining_gather (gathered buffer : Bytes) (fills : List Fill) :
    (gather gathered buffer fills).2.remaining ≤ (Input.mk buffer fills).remaining ∧
      ((gather gathered buffer fills).1 ≠ .ok gathered →
        (gather gathered buffer fills).2.remaining < (Input.mk buffer fills).remaining) := by
  fun_induction gather gathered buffer fills with
  | case1 gathered buffer line rest fills h =>
    have hl := congrArg List.length (append_of_firstLine?_eq_some h)
    simp only [List.length_append] at hl
    have hp : gathered ++ line ≠ gathered → line.length ≠ 0 := by
      intro hne he
      simp_all
    simp only [remaining, ne_eq, Except.ok.injEq]
    constructor
    · omega
    · intro hne
      have := hp hne
      omega
  | case2 gathered buffer h =>
    simp only [remaining, weightOf, List.length_nil, ne_eq, Except.ok.injEq]
    constructor
    · omega
    · intro hne
      have : buffer.length ≠ 0 := by
        intro he
        simp_all
      omega
  | case3 =>
    simp only [remaining, weightOf, Fill.weight, List.length_nil]
    omega
  | case4 gathered buffer data fills _ _ ih =>
    simp only [remaining, weightOf, Fill.weight] at ih ⊢
    constructor <;> omega
  | case5 gathered buffer cause fills _ _ ih =>
    simp only [remaining, weightOf, Fill.weight, List.length_nil] at ih ⊢
    constructor <;> omega
  | case6 =>
    simp only [remaining, weightOf, Fill.weight, List.length_nil]
    omega

/-- Reading a line never leaves more to read. -/
theorem remaining_readLine_le (i : Input) : i.readLine.2.remaining ≤ i.remaining :=
  (remaining_gather [] i.buffer i.fills).1

/-- Reading something leaves less to read. -/
theorem remaining_readLine_lt (i : Input) (h : i.readLine.1 ≠ .ok []) :
    i.readLine.2.remaining < i.remaining :=
  (remaining_gather [] i.buffer i.fills).2 h

/-- A read that is not the end of the stream brought something. -/
theorem readLine_ne_of_ofRead (i : Input) (h : ReadOutcome.ofRead i.readLine.1 ≠ .endOfStream) :
    i.readLine.1 ≠ .ok [] := by
  intro he
  simp [he, ReadOutcome.ofRead, ReadOutcome.ofBytes] at h

end Input

/-- A host with piped input whose launches are scripted. -/
structure Piped where
  /-- Where its lines come from. -/
  input : Input
  /-- What its launches come to. -/
  launches : List ScriptedLaunch
  deriving DecidableEq, Repr, Inhabited

namespace Piped

/-- Writes a prompt and reads a line. -/
def readLine (prompt : Prompt) (p : Piped) (c : Console) : ReadOutcome × Piped × Console :=
  match readPrompted prompt.text p.input c with
  | (outcome, input, c) => (outcome, { p with input := input }, c)

/-- Launches as the first item of the list says. -/
def launch (command : Command) (p : Piped) (c : Console) :
    Except ShellError Launched × Piped × Console :=
  match launchScripted command p.launches c with
  | (result, launches, c) => (result, { p with launches := launches }, c)

instance : Host Piped where
  readLine := readLine
  launch := launch
  remaining p := p.input.remaining
  remaining_readLine_le _ p _ := p.input.remaining_readLine_le
  remaining_readLine_lt _ p _ h := p.input.remaining_readLine_lt (p.input.readLine_ne_of_ofRead h)
  remaining_launch_le _ _ _ := Nat.le_refl _

end Piped

end RecallShell
