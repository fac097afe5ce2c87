import RecallShell.Proofs.Launch.Children

/-!
# Whose status a launch comes to

Commands are launched one after the other, and the system reports the children that they have left
behind in whatever order these end. As long as it reports each child once, and no two children that
it has yet to report share a number, a launch that is waited for comes to the status of its own
child and to no other, once that child has been reported. A launch that is not waited for comes to
the number of its child and leaves all reports to the later ones.
-/

namespace RecallShell

/-- Signals that cut the asking short and readable reports about other children are passed over. -/
theorem awaitChild_append_of_tells {child : Pid} {passed : List WaitReport} {others : List Ended}
    (h : Tells passed others) (hothers : ∀ e ∈ others, e.isUnreadable = false ∧ e.pid ≠ child)
    (rest : List WaitReport) : awaitChild child (passed ++ rest) = awaitChild child rest := by
  induction passed generalizing others with
  | nil => rfl
  | cons report passed ih =>
    by_cases hr : report = .failed .interrupted
    · subst hr
      rw [List.cons_append, awaitChild_interrupted]
      exact ih (by simpa [Tells] using h) hothers
    · rw [Tells, List.filter_cons_of_pos (by simpa using hr)] at h
      obtain ⟨e, others, rfl, rfl, hrest⟩ := List.map_eq_cons_iff.1 h.symm
      obtain ⟨hreadable, hne⟩ := hothers e List.mem_cons_self
      rw [List.cons_append, Ended.awaitChild_report hreadable hne]
      exact ih hrest.symm fun f hf => hothers f (List.mem_cons_of_mem e hf)

/-- The report of the child itself, where it can be read, ends the waiting. -/
theorem awaitChild_own {e : Ended} (h : e.isUnreadable = false) (rest : List WaitReport) :
    awaitChild e.pid (e.report :: rest) = (.ok e.status, rest) := by
  obtain ⟨pid, code | number⟩ := e
  · simp [Ended.report, WaitReport.ofStatus, awaitChild]
  · have hn : number < firstRealTimeSignal := Int.not_le.1 (of_decide_eq_false h)
    simp [Ended.report, WaitReport.ofStatus, awaitChild, hn]

/-- Any other failure than a signal that cuts the asking short ends the waiting, too. -/
theorem awaitChild_failed {number : Errno} (h : number ≠ .interrupted) (child : Pid)
    (rest : List WaitReport) :
    awaitChild child (.failed number :: rest) = (.error number, rest) := by
  simp [awaitChild, h]

/-- How a command that is launched fares with the system. A child is given with the way it ends, now
or later. -/
inductive Job where
  /-- The command cannot be handed to a program. -/
  | refused (command : Command) (reason : ShellError)
  /-- No child can be made. -/
  | childless (command : Command) (number : Errno)
  /-- The child is left running. -/
  | detached (command : Command) (child : Ended)
  /-- The child is waited for until it is reported, behind some other reports. -/
  | awaited (command : Command) (child : Ended) (passed : List WaitReport)
  /-- The child is waited for until asking fails, behind some other reports. -/
  | abandoned (command : Command) (child : Ended) (passed : List WaitReport) (number : Errno)

namespace Job

/-- What is launched. -/
def command : Job → Command
  | refused command _ | childless command _ | detached command _ | awaited command _ _
  | abandoned command _ _ _ => command

/-- What the launch should come to: the status of its own child where that is waited for. -/
def result : Job → Except ShellError Launched
  | refused _ reason => .error reason
  | childless _ number => .error (.fork number)
  | detached _ child => .ok (.background child.pid)
  | awaited _ child _ => .ok (.foreground child.status)
  | abandoned _ _ _ number => .error (.wait number)

/-- The reports that the launch should take: none unless a child is waited for, and then those up to
the one that ends the waiting. -/
def reports : Job → List WaitReport
  | refused .. | childless .. | detached .. => []
  | awaited _ child passed => passed ++ [child.report]
  | abandoned _ _ passed number => passed ++ [.failed number]

/-- How the system may behave while a command is launched, given the children that it has yet to
report before and after. A new child has a number that none of these has. A report is about one of
them, can be read, and comes once; a failure may cost reports that were still to come. -/
inductive Runs : Job → List Ended → Kernel → List Ended → Kernel → Prop
  | refused {command : Command} {reason : ShellError} {us : List Ended} {k : Kernel}
      (hargv : command.argv = .error reason) : Runs (.refused command reason) us k us k
  | childless {command : Command} {argv : Argv} {number : Errno} {us : List Ended}
      {forks : List (Except Errno Pid)} {waits : List WaitReport}
      (hargv : command.argv = .ok argv) :
      Runs (.childless command number) us ⟨.error number :: forks, waits⟩ us ⟨forks, waits⟩
  | detached {command : Command} {argv : Argv} {child : Ended} {us : List Ended}
      {forks : List (Except Errno Pid)} {waits : List WaitReport} (hargv : command.argv = .ok argv)
      (hbackground : command.background = true) (hfresh : ∀ e ∈ us, e.pid ≠ child.pid) :
      Runs (.detached command child) us ⟨.ok child.pid :: forks, waits⟩ (child :: us) ⟨forks, waits⟩
  | awaited {command : Command} {argv : Argv} {child : Ended} {us reaped us' : List Ended}
      {forks : List (Except Errno Pid)} {passed waits : List WaitReport}
      (hargv : command.argv = .ok argv) (hforeground : command.background = false)
      (hfresh : ∀ e ∈ us, e.pid ≠ child.pid) (honce : us.Perm (reaped ++ us'))
      (htells : Tells passed reaped) (hreadable : ∀ e ∈ child :: reaped, e.isUnreadable = false) :
      Runs (.awaited command child passed) us
        ⟨.ok child.pid :: forks, passed ++ child.report :: waits⟩ us' ⟨forks, waits⟩
  | abandoned {command : Command} {argv : Argv} {child : Ended} {us reaped left us' : List Ended}
      {forks : List (Except Errno Pid)} {passed waits : List WaitReport} {number : Errno}
      (hargv : command.argv = .ok argv) (hforeground : command.background = false)
      (hfresh : ∀ e ∈ us, e.pid ≠ child.pid) (honce : us.Perm (reaped ++ left))
      (htells : Tells passed reaped) (hreadable : ∀ e ∈ reaped, e.isUnreadable = false)
      (hnumber : number ≠ .interrupted) (hcost : us'.Sublist (child :: left)) :
      Runs (.abandoned command child passed number) us
        ⟨.ok child.pid :: forks, passed ++ .failed number :: waits⟩ us' ⟨forks, waits⟩

/-- The children whose reports come before a new child's are none of them that child. -/
theorem pid_ne_of_reaped {child : Ended} {us reaped left : List Ended}
    (hfresh : ∀ e ∈ us, e.pid ≠ child.pid) (honce : us.Perm (reaped ++ left)) :
    ∀ e ∈ reaped, e.pid ≠ child.pid :=
  fun e he => hfresh e (honce.mem_iff.2 (List.mem_append_left left he))

end Job

/-- Commands are launched one after the other: which children the system has yet to report, and what
it answers from there on, before and after. -/
inductive Course : List Ended → Kernel → List Job → List Ended → Kernel → Prop
  | done {us : List Ended} {k : Kernel} : Course us k [] us k
  | next {job : Job} {jobs : List Job} {us us' us'' : List Ended} {k k' k'' : Kernel}
      (h : job.Runs us k us' k') (hrest : Course us' k' jobs us'' k'') :
      Course us k (job :: jobs) us'' k''

namespace Kernel

/-- What a launch that is waited for comes to, and what it leaves. -/
theorem launch_foreground {command : Command} {argv : Argv} {child : Pid}
    {forks : List (Except Errno Pid)} {waits : List WaitReport} (hargv : command.argv = .ok argv)
    (hforeground : command.background = false) :
    launch ⟨.ok child :: forks, waits⟩ command =
      match awaitChild child waits with
      | (.ok status, rest) => (.ok (.foreground status), ⟨forks, rest⟩)
      | (.error number, rest) => (.error (.wait number), ⟨forks, rest⟩) := by
  simp only [launch, hargv, follow, hforeground]
  rcases awaitChild child waits with ⟨_ | _, _⟩ <;> rfl

/-- The reports that each of some launches takes, one launch after the other. -/
def reportsTaken (k : Kernel) : List Command → List (List WaitReport)
  | [] => []
  | command :: commands =>
    let rest := (k.launch command).2
    k.reports.take (k.reports.length - rest.reports.length) :: rest.reportsTaken commands

/-- What is left once some reports have been taken tells which these were. -/
theorem take_of_append (taken rest : List WaitReport) :
    (taken ++ rest).take ((taken ++ rest).length - rest.length) = taken := by
  rw [List.length_append, Nat.add_sub_cancel, List.take_left]

/-- A launch comes to what its job should come to, and takes the reports that it should. -/
theorem launch_of_runs {job : Job} {us us' : List Ended} {k k' : Kernel}
    (h : job.Runs us k us' k') :
    k.launch job.command = (job.result, k') ∧ k.reports = job.reports ++ k'.reports := by
  cases h with
  | refused hargv => exact ⟨by simp [launch, Job.command, Job.result, hargv], rfl⟩
  | childless hargv => exact ⟨by simp [launch, Job.command, Job.result, hargv], rfl⟩
  | detached hargv hbackground _ =>
    exact ⟨by simp [launch, follow, Job.command, Job.result, hargv, hbackground], rfl⟩
  | @awaited command _ child _ reaped _ _ passed waits hargv hforeground hfresh honce htells
      hreadable =>
    have hothers : ∀ e ∈ reaped, e.isUnreadable = false ∧ e.pid ≠ child.pid := fun e he =>
      ⟨hreadable e (List.mem_cons_of_mem child he), Job.pid_ne_of_reaped hfresh honce e he⟩
    refine ⟨?_, by simp [Job.reports]⟩
    rw [Job.command, launch_foreground hargv hforeground,
      awaitChild_append_of_tells htells hothers,
      awaitChild_own (hreadable child List.mem_cons_self)]
    rfl
  | @abandoned command _ child _ reaped _ _ _ passed waits number hargv hforeground hfresh honce
      htells hreadable hnumber _ =>
    have hothers : ∀ e ∈ reaped, e.isUnreadable = false ∧ e.pid ≠ child.pid := fun e he =>
      ⟨hreadable e he, Job.pid_ne_of_reaped hfresh honce e he⟩
    refine ⟨?_, by simp [Job.reports]⟩
    rw [Job.command, launch_foreground hargv hforeground,
      awaitChild_append_of_tells htells hothers, awaitChild_failed hnumber]
    rfl

/-- Whatever commands are launched and in whatever order their children end: a launch that is waited
for comes to the status of its own child, having taken reports up to that child's and no further;
one that is not comes to its child's number and takes no report; and where asking fails before the
child has been reported, waiting for it fails with that. -/
theorem launchAll_attributes {us us' : List Ended} {k k' : Kernel} {jobs : List Job}
    (h : Course us k jobs us' k') :
    k.launchAll (jobs.map Job.command) = (jobs.map Job.result, k') ∧
      k.reportsTaken (jobs.map Job.command) = jobs.map Job.reports := by
  induction h with
  | done => exact ⟨rfl, rfl⟩
  | next hruns _ ih =>
    -- What the first launch leaves is where the course of the others begins.
    obtain ⟨hlaunch, hreports⟩ := launch_of_runs hruns
    obtain ⟨hresults, htaken⟩ := ih
    constructor
    · simp only [List.map_cons, launchAll, hlaunch, hresults]
    · simp only [List.map_cons, reportsTaken, hlaunch, htaken]
      rw [hreports, take_of_append]

/-- The number of a child that has been reported is given to a later one: each launch that is waited
for comes to the status of its own child, behind reports about the two that share a number. -/
theorem launchAll_attributes_of_reuse :
    let sleep : Command := ⟨["sleep", "1"], true⟩
    let cat : Command := ⟨["cat"], false⟩
    let k : Kernel := ⟨[.ok 101, .ok 102, .ok 101, .ok 103], [.failed .interrupted, .exited 101 3,
      .exited 102 7, .signaled 101 15, .failed .interrupted, .signaled 103 9]⟩
    (k.launchAll [sleep, cat, sleep, cat]).1 = [.ok (.background 101),
        .ok (.foreground (.code 7)), .ok (.background 101), .ok (.foreground (.signal 9))] ∧
      k.reportsTaken [sleep, cat, sleep, cat] =
        [[], [.failed .interrupted, .exited 101 3, .exited 102 7], [],
          [.signaled 101 15, .failed .interrupted, .signaled 103 9]] := by
  intro sleep cat k
  have hcourse : Course [] k
      [.detached sleep ⟨101, .code 3⟩,
        .awaited cat ⟨102, .code 7⟩ [.failed .interrupted, .exited 101 3],
        .detached sleep ⟨101, .signal 15⟩,
        .awaited cat ⟨103, .signal 9⟩ [.signaled 101 15, .failed .interrupted]] [] ⟨[], []⟩ := by
    have hfirst : [Ended.mk 101 (.code 3)].Perm ([⟨101, .code 3⟩] ++ []) := .refl _
    have hsecond : [Ended.mk 101 (.signal 15)].Perm ([⟨101, .signal 15⟩] ++ []) := .refl _
    refine .next (.detached rfl rfl (by simp)) ?_
    refine .next (.awaited rfl rfl (by decide) hfirst (by decide) (by decide)) ?_
    refine .next (.detached rfl rfl (by simp)) ?_
    exact .next (.awaited rfl rfl (by decide) hsecond (by decide) (by decide)) .done
  obtain ⟨hlaunched, htaken⟩ := launchAll_attributes hcourse
  exact ⟨congrArg Prod.fst hlaunched, htaken⟩

end Kernel

end RecallShell
