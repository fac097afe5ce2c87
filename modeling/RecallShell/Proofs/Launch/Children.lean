import RecallShell.Launch.Kernel
import RecallShell.Proofs.Session.Course

/-!
# What other children do to a launch

A launch that is waited for takes the reports about all children that end before its own. Reports
about the others are dropped, with one exception: the report about a child that a real-time signal
ended cannot be read, and the first of these ends the waiting. So a launch whose own child ends by
itself comes to that child's code exactly if no child reported before was ended by a real-time
signal; otherwise it fails, and a session ends with that failure.
-/

namespace RecallShell

/-- A child that has ended. -/
structure Ended where
  /-- Its number. -/
  pid : Pid
  /-- How it ended. -/
  status : ExitStatus
  deriving DecidableEq, Repr

namespace Ended

/-- What asking the system brings when it reports the child. -/
def report (e : Ended) : WaitReport := .ofStatus e.pid e.status

/-- Whether a signal ended the child whose report cannot be read. -/
def isUnreadable (e : Ended) : Bool :=
  match e.status with
  | .code _ => false
  | .signal number => decide (firstRealTimeSignal ≤ number)

/-- A report that cannot be read is a failure like any other invalid argument. -/
theorem report_of_isUnreadable {e : Ended} (h : e.isUnreadable = true) :
    e.report = .failed .invalidArgument := by
  obtain ⟨pid, code | number⟩ := e
  · cases h
  · have hn : firstRealTimeSignal ≤ number := of_decide_eq_true h
    rw [report, WaitReport.ofStatus, if_neg (Int.not_lt.2 hn)]

/-- A report about another child that can be read is dropped. -/
theorem awaitChild_report {e : Ended} {child : Pid} (h : e.isUnreadable = false)
    (hne : e.pid ≠ child) (rest : List WaitReport) :
    awaitChild child (e.report :: rest) = awaitChild child rest := by
  obtain ⟨pid, code | number⟩ := e
  · rw [report, WaitReport.ofStatus, awaitChild, if_neg hne]
  · have hn : number < firstRealTimeSignal := Int.not_le.1 (of_decide_eq_false h)
    rw [report, WaitReport.ofStatus, if_pos hn, awaitChild, if_neg hne]

end Ended

/-- Reports tell of some children that have ended, in order. Between them signals may cut the asking
short. -/
def Tells (reports : List WaitReport) (children : List Ended) : Prop :=
  (reports.filter fun report => report ≠ .failed .interrupted) = children.map Ended.report

instance (reports : List WaitReport) (children : List Ended) : Decidable (Tells reports children) :=
  inferInstanceAs (Decidable (_ = _))

/-- Signals that cut the asking short do not change what waiting comes to. -/
theorem awaitChild_filter (child : Pid) (reports : List WaitReport) :
    (awaitChild child (reports.filter fun report => report ≠ .failed .interrupted)).1 =
      (awaitChild child reports).1 := by
  fun_induction awaitChild child reports with
  | case1 => rfl
  | case2 code rest => simp [awaitChild]
  | case3 pid code rest hne ih => simpa [awaitChild, hne] using ih
  | case4 signal rest => simp [awaitChild]
  | case5 pid signal rest hne ih => simpa [awaitChild, hne] using ih
  | case6 rest ih => simpa using ih
  | case7 number rest hne => simp [awaitChild, hne]

/-- Reports about other children are dropped up to the first one that cannot be read. -/
theorem awaitChild_map_report {child : Pid} {before : List Ended}
    (h : ∀ e ∈ before, e.pid ≠ child) (rest : List WaitReport) :
    (awaitChild child (before.map Ended.report ++ rest)).1 =
      if before.any Ended.isUnreadable then .error .invalidArgument
      else (awaitChild child rest).1 := by
  induction before with
  | nil => rfl
  | cons e before ih =>
    rw [List.map_cons, List.cons_append, List.any_cons]
    cases hu : e.isUnreadable with
    | true =>
      rw [Ended.report_of_isUnreadable hu]
      rfl
    | false =>
      rw [Ended.awaitChild_report hu (h e List.mem_cons_self), Bool.false_or]
      exact ih fun f hf => h f (List.mem_cons_of_mem e hf)

/-- Waiting for a child that ends by itself comes to its code, unless a report before its own cannot
be read. -/
theorem awaitChild_of_tells {child : Pid} {reports : List WaitReport} {before after : List Ended}
    {code : Int} (h : Tells reports (before ++ ⟨child, .code code⟩ :: after))
    (honce : ∀ e ∈ before, e.pid ≠ child) :
    (awaitChild child reports).1 =
      if before.any Ended.isUnreadable then .error .invalidArgument else .ok (.code code) := by
  rw [← awaitChild_filter, h, List.map_append, awaitChild_map_report honce, List.map_cons]
  simp [Ended.report, WaitReport.ofStatus, awaitChild]

namespace Kernel

/-- A background launch takes no report, whatever it comes to. -/
theorem reports_launch_background {k : Kernel} {command : Command}
    (h : command.background = true) : (k.launch command).2.reports = k.reports := by
  unfold launch
  split
  · rfl
  · split
    · rfl
    · rfl
    · rw [reports_follow_background h]

/-- Background launches take no reports. -/
theorem reports_launchAll_background {k : Kernel} {commands : List Command}
    (h : ∀ command ∈ commands, command.background = true) :
    (k.launchAll commands).2.reports = k.reports := by
  induction commands generalizing k with
  | nil => rfl
  | cons command commands ih =>
    rw [launchAll, ih fun c hc => h c (List.mem_cons_of_mem command hc)]
    exact reports_launch_background (h command List.mem_cons_self)

/-- A launch that is waited for comes to what waiting for its child comes to. -/
theorem launch_eq_awaitChild {k : Kernel} {command : Command} {argv : Argv} {child : Pid}
    {forks : List (Except Errno Pid)} (hargv : command.argv = .ok argv)
    (hforeground : command.background = false) (hforks : k.forks = .ok child :: forks) :
    (k.launch command).1 =
      match (awaitChild child k.reports).1 with
      | .ok status => .ok (.foreground status)
      | .error number => .error (.wait number) := by
  simp only [launch, hargv, hforks, follow, hforeground]
  rcases awaitChild child k.reports with ⟨_ | _, _⟩ <;> rfl

/-- After background launches, whatever became of them, a launch that is waited for and whose own
child ends by itself comes to that child's code exactly if no child reported before was ended by a
real-time signal; otherwise waiting fails. A session in which the launch for a line comes to this
goes on to its next turn in the first case, and is over with that failure in the second. -/
theorem foreground_launch_among_children {k : Kernel} {earlier : List Command}
    {command : Command} {argv : Argv} {child : Pid} {forks : List (Except Errno Pid)}
    {before after : List Ended} {code : Int}
    (hearlier : ∀ c ∈ earlier, c.background = true) (hargv : command.argv = .ok argv)
    (hforeground : command.background = false)
    (hforks : (k.launchAll earlier).2.forks = .ok child :: forks)
    (hreports : Tells k.reports (before ++ ⟨child, .code code⟩ :: after))
    (honce : ∀ e ∈ before, e.pid ≠ child) :
    ((k.launchAll earlier).2.launch command).1 =
        (if before.any Ended.isUnreadable then .error (.wait .invalidArgument)
          else .ok (.foreground (.code code))) ∧
      ∀ {H : Type} [Host H] (s : Session H) {line program : String},
        Command.parse line = command → command.program? = some program →
        ((s.remember program).keep.launch .command command).1 =
          ((k.launchAll earlier).2.launch command).1 →
        (s.proceed (.line line)).reached.1 =
          if before.any Ended.isUnreadable then .over (.error (.wait .invalidArgument))
          else .polling := by
  have hlaunch : ((k.launchAll earlier).2.launch command).1 =
      if before.any Ended.isUnreadable then .error (.wait .invalidArgument)
      else .ok (.foreground (.code code)) := by
    rw [launch_eq_awaitChild hargv hforeground hforks, reports_launchAll_background hearlier,
      awaitChild_of_tells hreports honce]
    cases before.any Ended.isUnreadable <;> rfl
  refine ⟨hlaunch, ?_⟩
  rintro H _ s line program rfl hprogram hs
  rw [Session.reached_proceed_line hprogram, Session.fst_launchMain, hs, hlaunch]
  cases before.any Ended.isUnreadable <;> rfl

/-- A background child that signal 40 ends before a foreground child exits with code 7 makes the
launch of the latter fail. -/
theorem foreground_launch_among_children_of_realTimeSignal :
    let quick : Command := ⟨["sh", "-c", "kill -40 $$"], true⟩
    let slow : Command := ⟨["sh", "-c", "exit 7"], false⟩
    let k : Kernel := ⟨[.ok 101, .ok 102],
      [.failed .interrupted, .failed .invalidArgument, .exited 102 7]⟩
    ((k.launchAll [quick]).2.launch slow).1 = .error (.wait .invalidArgument) := by
  intro quick slow k
  have hreports : Tells k.reports ([⟨101, .signal 40⟩] ++ ⟨102, .code 7⟩ :: []) := by decide
  exact (foreground_launch_among_children (by decide) rfl rfl rfl hreports (by decide)).1

end Kernel

end RecallShell
