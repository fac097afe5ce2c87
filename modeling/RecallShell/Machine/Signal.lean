/-!
# Signals

A signal is a number. The numbers below 32 have names and texts of their own; those from 34 to 64
are named by their distance from either end.
-/

namespace RecallShell.Machine

/-- The number of a signal. -/
abbrev Signal := Int

namespace Signal

/-- The signals with a name of their own, and the texts for processes that they end. -/
def table : List (String × Signal × String) :=
  [("HUP", 1, "Hangup"), ("INT", 2, "Interrupt"), ("QUIT", 3, "Quit"),
    ("ILL", 4, "Illegal instruction"), ("TRAP", 5, "Trace/breakpoint trap"), ("ABRT", 6, "Aborted"),
    ("BUS", 7, "Bus error"), ("FPE", 8, "Floating point exception"), ("KILL", 9, "Killed"),
    ("USR1", 10, "User defined signal 1"), ("SEGV", 11, "Segmentation fault"),
    ("USR2", 12, "User defined signal 2"), ("PIPE", 13, "Broken pipe"), ("ALRM", 14, "Alarm clock"),
    ("TERM", 15, "Terminated"), ("16", 16, "Stack fault"), ("CHLD", 17, "Child exited"),
    ("CONT", 18, "Continued"), ("STOP", 19, "Stopped (signal)"), ("TSTP", 20, "Stopped"),
    ("TTIN", 21, "Stopped (tty input)"), ("TTOU", 22, "Stopped (tty output)"),
    ("URG", 23, "Urgent I/O condition"), ("XCPU", 24, "CPU time limit exceeded"),
    ("XFSZ", 25, "File size limit exceeded"), ("VTALRM", 26, "Virtual timer expired"),
    ("PROF", 27, "Profiling timer expired"), ("WINCH", 28, "Window changed"),
    ("IO", 29, "I/O possible"), ("PWR", 30, "Power failure"), ("SYS", 31, "Bad system call")]

/-- The signal that stands for the end of a shell. -/
def exit : Signal := 0

/-- The signal that a user interrupts with. -/
def interrupt : Signal := 2

/-- The signal that a user quits with. -/
def quit : Signal := 3

/-- The signal for writing where nobody reads. -/
def pipe : Signal := 13

/-- The signal that asks to end. -/
def terminate : Signal := 15

/-- The signal that ends any process. -/
def kill : Signal := 9

/-- The signal that a child has ended. -/
def child : Signal := 17

/-- The signal that a stopped process is to go on. -/
def continue_ : Signal := 18

/-- The signal for a file that grows beyond its limit. -/
def fileSize : Signal := 25

/-- The signal for arithmetic that cannot be done. -/
def arithmetic : Signal := 8

/-- The signal that a line is gone. -/
def hangup : Signal := 1

/-- Whether a signal stops a process that does nothing about it. -/
def stops (signal : Signal) : Bool := 19 ≤ signal && signal ≤ 22

/-- The first and the last of the signals without a name of their own. -/
def realTime : Signal × Signal := (34, 64)

/-- The signals that leave alone a process that does nothing about them. -/
def harmless : List Signal := [exit, 17, 18, 19, 20, 21, 22, 23, 28]

/-- Whether a signal ends a process that does nothing about it. -/
def isDeadly (signal : Signal) : Bool := !harmless.contains signal

/-- Whether nothing can be done about a signal. -/
def isUntrappable (signal : Signal) : Bool := signal == 9 || signal == 19

/-- The text for a process that a signal ended. -/
def text (signal : Signal) : String :=
  match table.find? fun r => r.2.1 == signal with
  | some r => r.2.2
  | none =>
    if realTime.1 ≤ signal && signal ≤ realTime.2 then s!"Real-time signal {signal - realTime.1}"
    else s!"Unknown signal {signal}"

/-- The name of a signal. -/
def name (signal : Signal) : String :=
  match table.find? fun r => r.2.1 == signal with
  | some r => r.1
  | none =>
    let (first, last) := realTime
    let middle := (first + last) / 2
    if signal == exit then "EXIT"
    else if signal == first then "RTMIN"
    else if signal == last then "RTMAX"
    else if first < signal && signal ≤ middle then s!"RTMIN+{signal - first}"
    else if middle < signal && signal < last then s!"RTMAX-{last - signal}"
    else s!"{signal}"

/-- The signals that there are. -/
def all : List Signal := (List.range 64).map fun n : Nat => (n : Int) + 1

/-- The signal given by number or by name. -/
def ofString? (s : String) : Option Signal :=
  match if s.toList.all Char.isDigit then s.toNat? else none with
  | some n => if n ≤ 64 then some n else none
  | none => (exit :: all).find? fun signal => name signal == s.toUpper

end Signal

end RecallShell.Machine
