import RecallShell.Launch
import RecallShell.ShellError

/-!
# Waiting for children

The system reports the children that ended one after the other, whichever they are. Waiting for one
child takes reports until that child's own comes; reports about other children are dropped. The
report of a child that a real-time signal ended cannot be read and surfaces as a failure.
-/

namespace RecallShell

/-- What asking the system for a child that ended brings. -/
inductive WaitReport where
  /-- A child ended by itself. -/
  | exited (pid : Pid) (code : Int)
  /-- A signal ended a child. -/
  | signaled (pid : Pid) (signal : Int)
  /-- Asking failed. -/
  | failed (number : Errno)
  deriving DecidableEq, Repr

/-- The first signal whose report cannot be read. -/
def firstRealTimeSignal : Int := 32

/-- The report about a child that ended with a status. -/
def WaitReport.ofStatus (pid : Pid) : ExitStatus → WaitReport
  | .code value => .exited pid value
  | .signal number =>
    if number < firstRealTimeSignal then .signaled pid number else .failed .invalidArgument

/-- The status of one child, taken from the reports to come, and the reports left after it. When
there is no report to come there is no child left. -/
def awaitChild (child : Pid) : List WaitReport → Except Errno ExitStatus × List WaitReport
  | [] => (.error .noChild, [])
  | .exited pid code :: rest => if pid = child then (.ok (.code code), rest) else awaitChild child rest
  | .signaled pid signal :: rest =>
    if pid = child then (.ok (.signal signal), rest) else awaitChild child rest
  | .failed number :: rest =>
    if number = .interrupted then awaitChild child rest else (.error number, rest)

/-- A signal that cuts waiting short changes nothing. -/
theorem awaitChild_interrupted (child : Pid) (rest : List WaitReport) :
    awaitChild child (.failed .interrupted :: rest) = awaitChild child rest := by
  simp [awaitChild]

end RecallShell
