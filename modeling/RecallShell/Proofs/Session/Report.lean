import RecallShell.Proofs.Session.Ending
import RecallShell.Proofs.Session.Outcome
import RecallShell.Proofs.Session.Parallel

/-!
# Failures are reported once

A line with a program is an order: the history is written and the command is launched, and either of
the two may fail. A session complains of each of these failures once, where it comes about, and of
nothing else. A fatal failure is not complained of: the session ends with it, as it stands. The
failure of a repeat is not complained of either, but said to the output, right behind what announces
the repeat.
-/

namespace RecallShell

open Text Recall

/-- A line with a program that was read as a command, and what came of it. -/
structure Order where
  /-- The line. -/
  line : String
  /-- Its program. -/
  program : String
  /-- The line has that program. -/
  named : (Command.parse line).program? = some program
  /-- What writing the history failed with, if it failed. -/
  unsaved : Option ShellError
  /-- What the launch of the command came to. -/
  result : Except ShellError Launched

namespace Order

/-- What is complained of on account of an order. -/
def reports (order : Order) : List String :=
  saveReports order.unsaved ++ launchReports order.program order.result

/-- What the log tells of an order: the line was read, the history was written and the command was
launched, and behind each of these two stands the complaint if there is one. -/
def account (order : Order) : List Event :=
  .answered .command (.line order.line) ::
    (.saved order.unsaved :: (saveReports order.unsaved).map .complained) ++
    .launched .command (Command.parse order.line) order.result ::
      (launchReports order.program order.result).map .complained

end Order

/-- Whether the log tells of orders with an event: a line with a program was read as a command, the
history was written or not, the command of a line was launched or not, or there is a complaint. -/
def Event.isTask : Event → Bool
  | .answered .command (.line line) => (Command.parse line).program?.isSome
  | .saved _ | .launched .command .. | .complained _ => true
  | _ => false

/-- What the log tells of orders, and all complaints. -/
def tasksOf (events : List Event) : List Event := events.filter Event.isTask

theorem tasksOf_append (xs ys : List Event) : tasksOf (xs ++ ys) = tasksOf xs ++ tasksOf ys :=
  List.filter_append ..

theorem tasksOf_cons {event : Event} (h : event.isTask = true) (events : List Event) :
    tasksOf (event :: events) = event :: tasksOf events := List.filter_cons_of_pos h

/-- All that is told of orders are outcomes. -/
theorem tasksOf_outcomesOf (events : List Event) :
    tasksOf (outcomesOf events) = tasksOf events := by
  rw [tasksOf, outcomesOf, List.filter_filter]
  refine List.filter_congr fun event _ => ?_
  cases event with
  | answered prompt outcome => cases prompt <;> simp [Event.isTask, Event.isOutcome]
  | _ => simp [Event.isTask, Event.isOutcome]

/-- All complaints are told of. -/
theorem complaintsOf_tasksOf (events : List Event) :
    complaintsOf (tasksOf events) = complaintsOf events := by
  rw [complaintsOf, tasksOf, List.filterMap_filter]
  refine List.filterMap_congr fun event _ => ?_
  cases event <;> first | rfl | simp [Event.complaint?]

/-- Complaints are told of as they are. -/
theorem tasksOf_map_complained (texts : List String) :
    tasksOf (texts.map .complained) = texts.map .complained := by
  refine List.filter_eq_self.2 fun event he => ?_
  obtain ⟨text, -, rfl⟩ := List.mem_map.1 he
  rfl

theorem complaintsOf_map_complained (texts : List String) :
    complaintsOf (texts.map .complained) = texts := by
  induction texts with
  | nil => rfl
  | cons text texts ih => exact congrArg (text :: ·) ih

/-- The complaints in the account of an order are those on account of it. -/
theorem Order.complaintsOf_account (order : Order) :
    complaintsOf order.account = order.reports := by
  rw [account, complaintsOf_append]
  exact congrArg₂ (· ++ ·) (complaintsOf_map_complained _) (complaintsOf_map_complained _)

/-- So it is for all of them. -/
theorem complaintsOf_flatMap_account (orders : List Order) :
    complaintsOf (orders.flatMap Order.account) = orders.flatMap Order.reports := by
  induction orders with
  | nil => rfl
  | cons order orders ih =>
    rw [List.flatMap_cons, List.flatMap_cons, complaintsOf_append, order.complaintsOf_account, ih]

/-- What has been told at a stage of an order that is not complete. -/
def Stage.Due : Stage → List Event → Prop
  -- Nothing is told of a read that brought no line, nor of a line without a program.
  | .heard outcome, rest => rest = tasksOf [.answered .command outcome]
  | .keeping program command, rest => ∃ line, Command.parse line = command ∧
      command.program? = some program ∧ rest = [.answered .command (.line line)]
  | .launching program command, rest => ∃ line unsaved, Command.parse line = command ∧
      command.program? = some program ∧ rest = .answered .command (.line line) ::
        (.saved unsaved :: (saveReports unsaved).map .complained)
  | _, rest => rest = []

/-- When an interrupt has been handled there is no such order. -/
theorem Stage.due_resumed_iff {waited : Bool} {rest : List Event} :
    (Stage.resumed waited).Due rest ↔ rest = [] := by
  cases waited <;> rfl

/-- When an interrupt has been handled nothing is about to be repeated. -/
theorem Stage.resumed_ne_repeating {waited again : Bool} {entry : String} :
    Stage.resumed waited ≠ .repeating again entry := by
  cases waited <;> nofun

/-- What has come about by a stage is told of complete orders, one after the other, and of one that
is not complete. -/
structure Accounted (stage : Stage) (events : List Event) (orders : List Order)
    (rest : List Event) : Prop where
  /-- The accounts of the complete ones come first. -/
  tasks : tasksOf events = orders.flatMap Order.account ++ rest
  /-- The rest has been told of the other one. -/
  due : stage.Due rest

namespace Accounted

variable {a b : Stage} {events new rest more : List Event} {orders : List Order}

/-- An order that is not complete may become more so. -/
theorem on (h : Accounted a events orders rest) (hnew : tasksOf new = more)
    (hdue : b.Due (rest ++ more)) : Accounted b (events ++ new) orders (rest ++ more) where
  tasks := by rw [tasksOf_append, h.tasks, hnew, List.append_assoc]
  due := hdue

/-- With the launch of its command an order is complete. -/
theorem complete {program : String} {command : Command} {result : Except ShellError Launched}
    (h : Accounted (.launching program command) events orders rest)
    (hnew : tasksOf new =
      .launched .command command result :: (launchReports program result).map .complained)
    (hdue : b.Due []) : ∃ order, Accounted b (events ++ new) (orders ++ [order]) [] := by
  obtain ⟨line, unsaved, rfl, hprogram, rfl⟩ := h.due
  refine ⟨⟨line, program, hprogram, unsaved, result⟩, ?_, hdue⟩
  rw [tasksOf_append, h.tasks, hnew]
  simp [Order.account]

end Accounted

/-- A host whose launches write nothing to the output. -/
class Host.Mute (H : Type) [Host H] : Prop where
  /-- A launch leaves the output as it is. -/
  out_launch : ∀ (command : Command) (host : H) (c : Console),
    (launch command host c).2.2.out = c.out

instance : Host.Mute Script where
  out_launch command s c := c.out_launchScripted command s.launches

instance : Host.Mute Piped where
  out_launch command p c := c.out_launchScripted command p.launches

namespace Session

variable {H : Type} [Host H]

/-- What is told of the launch of a line's command is told of its order. -/
theorem tasksOf_outcomes_launching (s : Session H) (program : String) (command : Command) :
    tasksOf (s.outcomes (.launching program command)) =
      .launched .command command (s.launch .command command).1 ::
        (launchReports program (s.launch .command command).1).map .complained := by
  rw [outcomes, tasksOf_cons rfl, tasksOf_map_complained]

/-- So is what is told of writing the history. -/
theorem tasksOf_outcomes_keeping (s : Session H) (program : String) (command : Command) :
    tasksOf (s.outcomes (.keeping program command)) =
      .saved s.saveFailure? :: (saveReports s.saveFailure?).map .complained := by
  rw [outcomes, tasksOf_cons rfl, tasksOf_map_complained]

/-- An entry is about to be launched once more when it is on offer and the offer has been taken. -/
theorem Step.repeating_cases {a : Stage} {s t : Session H} {waited : Bool} {entry : String}
    (hs : Step a s (.repeating waited entry) t) :
    ∃ answer, a = .replied waited answer ∧ accepts answer = true ∧
      candidate? s.history = some entry ∧ t = s.say (announcement entry) := by
  generalize hb : Stage.repeating waited entry = b at hs
  cases hs with
  | accept ha hc =>
    cases hb
    exact ⟨_, rfl, ha, hc, rfl⟩
  | silence | decline | nothing | again | againFailed =>
    exact absurd hb.symm Stage.resumed_ne_repeating
  | _ => cases hb

/-- A launch on a mute host says nothing. -/
theorem out_launch [Host.Mute H] (s : Session H) (prompt : Prompt) (command : Command) :
    (s.launch prompt command).2.console.out = s.console.out :=
  Host.Mute.out_launch command s.host (s.console.record (.launching prompt command s.view))

/-- A repeat that fails offers the announcement and the failure to the output, and nothing else. -/
theorem offered_failedRepeat [Host.Mute H] {r : Session H} (hchunk : r.console.out.chunk ≠ some 0)
    (command : Command) (entry : String) (e : ShellError) :
    r.console.out.Offered (Sink.lineBytes (announcement entry) ++ Sink.lineBytes (failureLine e))
      ((((r.say (announcement entry)).launch .offer command).2.warn
        (failureWarning entry e)).say (failureLine e)).console.out := by
  have hannounced : (r.say (announcement entry)).console.out =
      (r.console.out.emit (Sink.lineBytes (announcement entry))).2.2 := Console.out_emit _ _
  have hfailed : ∀ t : Session H, ((t.warn (failureWarning entry e)).say
      (failureLine e)).console.out = (t.console.out.emit (Sink.lineBytes (failureLine e))).2.2 :=
    fun t => Console.out_emit _ _
  rw [hfailed, out_launch, hannounced]
  exact ((Sink.Offered.refl hchunk).emit _).emit _

variable [Host.Discreet H]

/-- In a step nothing is told of orders, or one of them becomes more complete. -/
theorem Step.accounted {a b : Stage} {s t : Session H} (hs : Step a s b t) {events : List Event}
    (h : ∃ orders rest, Accounted a events orders rest) :
    ∃ orders rest, Accounted b (events ++ s.since t) orders rest := by
  obtain ⟨orders, rest, h⟩ := h
  have hdue := h.due
  have hnew : tasksOf (s.since t) = tasksOf (s.outcomes a) := by
    rw [← hs.outcomesOf_since, tasksOf_outcomesOf]
  -- With a launch an order is complete, whatever the launch came to.
  have hlaunched : ∀ {program command}, a = .launching program command → b.Due [] →
      ∃ orders rest, Accounted b (events ++ s.since t) orders rest := by
    rintro program command rfl hb
    obtain ⟨order, hcomplete⟩ := h.complete (hnew.trans (s.tasksOf_outcomes_launching _ _)) hb
    exact ⟨_, _, hcomplete⟩
  cases hs with
  | idle | notice | list | answer | accept | hear | cut | finish | fail =>
    exact ⟨orders, _, h.on hnew (by rw [hdue]; rfl)⟩
  | silence | decline | nothing | again | againFailed =>
    exact ⟨orders, _, h.on hnew (Stage.due_resumed_iff.2 (by rw [hdue]; rfl))⟩
  | blank hp =>
    refine ⟨orders, _, h.on hnew ?_⟩
    rw [hdue]
    simp [outcomes, tasksOf, Event.isTask, hp, Stage.Due]
  | @remember _ line program hp =>
    refine ⟨orders, _, h.on hnew ⟨line, rfl, hp, ?_⟩⟩
    rw [hdue]
    simp [outcomes, tasksOf, Event.isTask, hp]
  | keep =>
    obtain ⟨line, hline, hprogram, rfl⟩ := hdue
    refine ⟨orders, _, h.on (hnew.trans (s.tasksOf_outcomes_keeping _ _)) ?_⟩
    exact ⟨line, s.saveFailure?, hline, hprogram, rfl⟩
  | launched => exact hlaunched rfl rfl
  | complain => exact hlaunched rfl rfl
  | fatal => exact hlaunched rfl rfl

/-- What happens in a run is told of complete orders. -/
theorem exists_orders (s : Session H) :
    ∃ orders : List Order, tasksOf s.events = orders.flatMap Order.account := by
  have hbegun : ∃ orders rest, Accounted .polling [] orders rest := ⟨[], [], rfl, rfl⟩
  have hrun := (s.path_run.invariant (J := fun stage _ events => ∃ orders rest,
    Accounted stage events orders rest) hbegun ?_).2
  · obtain ⟨orders, rest, htasks, hdue⟩ := hrun
    have hnone : rest = [] := hdue
    exact ⟨orders, by rw [events, htasks, hnone, List.append_nil]⟩
  · intro b t c u events hs h
    exact ⟨t.since u, hs.path.log, hs.accounted h⟩

/-! ## Fatal failures -/

/-- The event that ends a session with a failure is its last one, and the session is left as it
stands. -/
theorem run_of_fatal (s : Session H) {event : Event} {e : ShellError} (he : event ∈ s.events)
    (hfatal : event.ending? = some (.error e)) :
    ∃ stage t before, Path .polling s stage t ∧ s.since t = before ++ [event] ∧
      s.run = (.error e, t) := by
  obtain ⟨stage, t, before, last, hpath, hsince, hbefore, hlast, hclosed⟩ := s.path_run.conclusion
  obtain ⟨after, hlog, hafter⟩ := (t.rests_closed s.run.1).log
  rw [hpath.events_eq, hclosed, since_eq hlog, hsince, List.append_assoc] at he
  rcases List.mem_append.1 he with hmem | hmem
  · cases (hbefore event hmem).symm.trans hfatal
  rcases List.mem_append.1 hmem with hmem | hmem
  · obtain rfl := List.mem_singleton.1 hmem
    have hresult : s.run.1 = .error e := Option.some.inj (hlast.symm.trans hfatal)
    rw [hresult] at hclosed
    exact ⟨stage, t, before, hpath, hsince, Prod.ext hresult hclosed⟩
  · have hsent := hafter event hmem
    cases event <;> first | cases hfatal | cases hsent

/-! ## Failed repeats -/

/-- The launch of an entry that was offered and taken at `r` fails. The session goes on at `u`. -/
structure FailedRepeat (s : Session H) (before : List Event) (command : Command) (e : ShellError)
    (entry : String) (r u : Session H) : Prop where
  /-- In the course of the session the offer has been answered, and the answer takes it. -/
  taken : ∃ waited answer, accepts answer = true ∧ Path .polling s (.replied waited answer) r ∧
    Path (.replied waited answer) r (.resumed waited) u
  /-- The entry is the one on offer. -/
  offered : candidate? r.history = some entry
  /-- Its command was launched. -/
  command_eq : command = Command.ofEntry entry
  /-- The launch failed in between. -/
  between : ∃ xs ys, before = s.since r ++ xs ∧
    r.since u = xs ++ .launched .offer command (.error e) :: ys
  /-- Nothing is complained of. -/
  silent : complaintsOf (r.since u) = []
  /-- No diagnostic is written. -/
  diagnostics : Host.Aloof H → u.console.diagnostics = r.console.diagnostics
  /-- An output that never fails gets the announcement and the failure, each in a line. -/
  said : Host.Mute H → s.console.out.Lossless → u.console.out.accepted =
    r.console.out.accepted ++ Sink.lineBytes s!"Executing command: {entry}" ++
      Sink.lineBytes s!"Exec failed: {e.message}"

/-- A launch on account of an offer that fails is a repeat, after which the session goes on. -/
theorem Step.of_failed_offer {a b : Stage} {s t : Session H} (hs : Step a s b t)
    {xs ys : List Event} {command : Command} {e : ShellError}
    (he : s.since t = xs ++ .launched .offer command (.error e) :: ys) :
    ∃ waited entry, a = .repeating waited entry ∧ b = .resumed waited ∧
      command = Command.ofEntry entry ∧
      t = ((s.launch .offer command).2.warn (failureWarning entry e)).say (failureLine e) := by
  have hmem : Event.launched .offer command (.error e) ∈ s.outcomes a := by
    rw [← hs.outcomesOf_since, he]
    simp [outcomesOf, Event.isOutcome]
  cases a with
  | repeating waited entry =>
    obtain ⟨-, rfl, hresult⟩ := Event.launched.inj (List.mem_singleton.1 hmem)
    cases hs with
    | again hl => cases hresult.trans hl
    | againFailed hl =>
      cases hresult.trans hl
      exact ⟨waited, entry, rfl, rfl, rfl, rfl⟩
  | prompting => simp [outcomes] at hmem
  | keeping => simp [outcomes] at hmem
  | launching => simp [outcomes] at hmem
  | _ => cases hmem

/-- The failed launch of a repeat is told of at one place. -/
theorem failedRepeat_of_events [Host.Oblivious H] (s : Session H) {before after : List Event}
    {command : Command} {e : ShellError}
    (he : s.events = before ++ .launched .offer command (.error e) :: after) :
    ∃ entry r u, FailedRepeat s before command e entry r u := by
  obtain ⟨a, t, b, u, xs, ys, hpath, hs, -, hsince, hbefore⟩ := s.path_run.exists_step he
  obtain ⟨waited, entry, rfl, rfl, hcommand, hu⟩ := hs.of_failed_offer hsince
  obtain ⟨a, r, hr, hannounce⟩ : ∃ a r, Path .polling s a r ∧
      Step a r (.repeating waited entry) t := by
    cases hpath with
    | step hr hannounce => exact ⟨_, _, hr, hannounce⟩
  obtain ⟨answer, rfl, haccepts, hcandidate, ht⟩ := hannounce.repeating_cases
  have hru : Path (.replied waited answer) r (.resumed waited) u := hannounce.path.step hs
  have hsilent : complaintsOf (r.since u) = [] := by
    rw [← complaintsOf_outcomesOf, hannounce.path.since_append hs.path, outcomesOf_append,
      hannounce.outcomesOf_since, hs.outcomesOf_since]
    rfl
  refine ⟨entry, r, u, ⟨waited, answer, haccepts, hr, hru⟩, hcandidate, hcommand, ?_, hsilent,
    ?_, ?_⟩
  · refine ⟨r.since t ++ xs, ys, ?_, ?_⟩
    · rw [hbefore, hr.since_append hannounce.path, List.append_assoc]
    · rw [hannounce.path.since_append hs.path, hsince, List.append_assoc]
  · intro _
    rw [hru.diagnostics, hsilent]
    simp
  · intro _ hlossless
    have hout := hr.lossless hlossless
    rw [hu, ht, (offered_failedRepeat hout.chunk command entry e).accepted_of_lossless hout,
      ← List.append_assoc]
    rfl

/-- Whatever the file held, the host brings and the output takes: what a session tells of its lines
that have a program is one account after the other, each of a line that was read, of the history
being written or not, and of the launch, with a complaint right behind each of the two that failed.
There are no other complaints, so where the host writes none of its own, these are the diagnostics.
A fatal failure ends the session as it stands. Of a repeat that fails the output is told, right
behind the announcement, and nobody else. -/
theorem failures_reported_once [Host.Oblivious H] (settings : Settings) (host : H)
    (console : Console) :
    let s := start settings host console
    (∃ orders : List Order, tasksOf s.events = orders.flatMap Order.account ∧
      complaintsOf s.events = orders.flatMap Order.reports ∧
      (Host.Aloof H → s.run.2.console.diagnostics =
        console.diagnostics ++ (orders.flatMap Order.reports).flatMap encode)) ∧
    (∀ event ∈ s.events, ∀ e, event.ending? = some (.error e) →
      ∃ stage t before, Path .polling s stage t ∧ s.since t = before ++ [event] ∧
        s.run = (.error e, t)) ∧
    ∀ before command e after, s.events = before ++ .launched .offer command (.error e) :: after →
      ∃ entry r u, FailedRepeat s before command e entry r u := by
  intro s
  obtain ⟨orders, htasks⟩ := s.exists_orders
  have hcomplaints : complaintsOf s.events = orders.flatMap Order.reports := by
    rw [← complaintsOf_tasksOf, htasks, complaintsOf_flatMap_account]
  refine ⟨⟨orders, htasks, hcomplaints, fun _ => ?_⟩, fun event he e => s.run_of_fatal he,
    fun before command e after => s.failedRepeat_of_events⟩
  rw [← hcomplaints, ← diagnostics_start settings host console]
  exact s.path_run.diagnostics

/-- The disk refuses the first write and has no room for the second. The first launch fails, its
repeat cannot fork, and the child of the second line cannot be waited for, which ends the session. -/
theorem failures_reported_once_of_refusals :
    let refusing : Disk := { Disk.bare with
      obstacles := [some (.refusal (.system .accessDenied)), some (.shortage 0 (.system .noSpace))] }
    let script : Script := ⟨[⟨.line "a b", true⟩, ⟨.line "r", false⟩, ⟨.line "c", false⟩],
      [⟨.fails (.invalidArgument "nul byte"), false⟩, ⟨.fails (.fork .tryAgain), false⟩,
        ⟨.fails (.wait .noChild), false⟩]⟩
    let s := start (Settings.withHistoryPath (encode "h")) script
      (Console.fresh refusing Sink.unbounded)
    (∃ orders : List Order, tasksOf s.events = orders.flatMap Order.account ∧
      s.run.2.console.diagnostics = (orders.flatMap Order.reports).flatMap encode ∧
      orders.flatMap Order.reports =
        ["Error opening file: history file h: Permission denied (os error 13)\n",
          "a: invalid argument: nul byte\n",
          "Error opening file: history file h: No space left on device (os error 28)\n"]) ∧
      (∃ stage t, Path .polling s stage t ∧ s.run = (.error (.wait .noChild), t)) ∧
      ∃ before entry r u, FailedRepeat s before ⟨["a"], false⟩ (.fork .tryAgain) entry r u := by
  intro refusing script s
  have hcomplaints : complaintsOf s.events =
      ["Error opening file: history file h: Permission denied (os error 13)\n",
        "a: invalid argument: nul byte\n",
        "Error opening file: history file h: No space left on device (os error 28)\n"] := by
    decide +kernel
  have hwait : Event.launched .command ⟨["c"], false⟩ (.error (.wait .noChild)) ∈ s.events :=
    mem_launchResultsOf.1 (by decide +kernel)
  have hfork : Event.launched .offer ⟨["a"], false⟩ (.error (.fork .tryAgain)) ∈ s.events :=
    mem_launchResultsOf.1 (by decide +kernel)
  obtain ⟨⟨orders, htasks, hreports, hdiagnostics⟩, hfatal, hrepeats⟩ := failures_reported_once
    (Settings.withHistoryPath (encode "h")) script (Console.fresh refusing Sink.unbounded)
  obtain ⟨stage, t, -, hpath, -, hend⟩ := hfatal _ hwait _ rfl
  obtain ⟨before, after, hevents⟩ := List.append_of_mem hfork
  refine ⟨⟨orders, htasks, hdiagnostics inferInstance, hreports.symm.trans hcomplaints⟩,
    ⟨stage, t, hpath, hend⟩, before, ?_⟩
  exact hrepeats before _ _ after hevents

end Session

end RecallShell
