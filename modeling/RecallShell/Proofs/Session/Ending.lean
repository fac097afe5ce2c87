import RecallShell.Proofs.Session.Record

/-!
# How a session ends

Three kinds of events end a session: the end of the stream where a command is asked for, a failed
read of a command, and the launch of a line's command that fails so that the session cannot go on.
The session ends right after the first of these, with the result that belongs to it, and nothing is
read, launched, said or written any more; at the end of the stream the output is flushed once more.
Nothing else ends it: no failure at the offer, of a repeat, of the output or of the history file,
and no launch that fails in another way.
-/

namespace RecallShell

open Text

/-- How a session ends with the failed launch of a line's command, if it does. -/
def ShellError.ending? : ShellError → Option (Except ShellError Int)
  | .read cause => some (.error (.read cause))
  | .editor reason => some (.error (.editor reason))
  | .fork number => some (.error (.fork number))
  | .wait number => some (.error (.wait number))
  | .invalidArgument _ | .history .. => none

/-- How a session ends with an event, if it does. -/
def Event.ending? : Event → Option (Except ShellError Int)
  | .answered .command .endOfStream => some (.ok 0)
  | .answered .command (.failed cause) => some (.error (.read cause))
  | .launched .command _ (.error e) => e.ending?
  | _ => none

/-- None of some events ends the session. -/
def Continues (events : List Event) : Prop := ∀ event ∈ events, event.ending? = none

/-- The fatal failures of a launch are those that end the session, with themselves. -/
theorem ShellError.ending?_eq (e : ShellError) :
    e.ending? = if e.isFatal then some (.error e) else none := by
  cases e <;> rfl

theorem continues_append {xs ys : List Event} :
    Continues (xs ++ ys) ↔ Continues xs ∧ Continues ys := List.forall_mem_append

/-- Ambient events do not end the session. -/
theorem continues_of_ambient {events : List Event}
    (h : ∀ event ∈ events, event.isAmbient = true) : Continues events := by
  intro event he
  have ha := h event he
  cases event <;> first | rfl | cases ha

/-- Nor do events in a frame whose last one does not. -/
theorem continues_framed {first last : Event} {ambient : List Event}
    (hfirst : first.ending? = none) (hambient : ∀ event ∈ ambient, event.isAmbient = true)
    (hlast : last.ending? = none) : Continues (first :: ambient ++ [last]) := by
  refine continues_append.2 ⟨?_, by simpa [Continues] using hlast⟩
  exact List.forall_mem_cons.2 ⟨hfirst, continues_of_ambient hambient⟩

/-- Whether an event is that output was flushed. -/
def Event.isSent : Event → Bool
  | .sent _ => true
  | _ => false

/-- Before the session is over, nothing that has come about by a stage has ended it, except perhaps
the read that has just come to something. -/
def Stage.Undecided : Stage → List Event → Prop
  | .heard outcome, events =>
    ∃ before, events = before ++ [.answered .command outcome] ∧ Continues before
  | .over _, _ => True
  | _, events => Continues events

/-- When an interrupt has been handled nothing has ended the session. -/
theorem Stage.undecided_resumed {waited : Bool} {events : List Event} :
    (Stage.resumed waited).Undecided events ↔ Continues events := by
  cases waited <;> exact Iff.rfl

/-- A read that does not end the session leaves nothing that does. -/
theorem Stage.Undecided.continues {outcome : ReadOutcome} {events : List Event}
    (h : (Stage.heard outcome).Undecided events)
    (houtcome : (Event.answered .command outcome).ending? = none) : Continues events := by
  obtain ⟨before, rfl, hbefore⟩ := h
  exact continues_append.2 ⟨hbefore, by simpa [Continues] using houtcome⟩

/-- What has come about before may stand in front. -/
theorem Stage.Undecided.prepend {stage : Stage} {events new : List Event}
    (h : stage.Undecided new) (hevents : Continues events) : stage.Undecided (events ++ new) := by
  cases stage with
  | heard outcome =>
    obtain ⟨before, rfl, hbefore⟩ := h
    exact ⟨events ++ before, by rw [List.append_assoc], continues_append.2 ⟨hevents, hbefore⟩⟩
  | _ => first | exact continues_append.2 ⟨hevents, h⟩ | trivial

namespace Session

variable {H : Type}

/-- From `s` to `t` nothing is read, launched, said or written; output may be flushed. -/
structure Rests (s t : Session H) : Prop where
  /-- The history is as it was. -/
  history : t.history = s.history
  /-- The host has neither read nor launched anything. -/
  host : t.host = s.host
  /-- The disk is as it was. -/
  disk : t.console.disk = s.console.disk
  /-- No diagnostic is written. -/
  diagnostics : t.console.diagnostics = s.console.diagnostics
  /-- The output accepts nothing more. -/
  accepted : t.console.out.accepted = s.console.out.accepted
  /-- Only that output was flushed joins the log. -/
  log : ∃ sent, t.console.log = s.console.log ++ sent ∧ ∀ event ∈ sent, event.isSent = true

theorem Rests.refl (s : Session H) : s.Rests s where
  history := rfl
  host := rfl
  disk := rfl
  diagnostics := rfl
  accepted := rfl
  log := ⟨[], by simp, by simp⟩

/-- The last flush leaves only its own trace in the log. -/
theorem log_flush (c : Console) :
    ∃ sent, c.flush.log = c.log ++ sent ∧ ∀ event ∈ sent, event.isSent = true := by
  unfold Console.flush
  split
  · rename_i data out _
    unfold Console.recordSent
    split
    · exact ⟨[], by simp, by simp⟩
    · exact ⟨[.sent data], rfl, by simp [Event.isSent]⟩
  · exact ⟨[], by simp, by simp⟩

/-- While the output is flushed for the last time the session rests. -/
theorem rests_finish (s : Session H) : s.Rests s.finish := by
  obtain ⟨_, hc, -⟩ := s.console.calm_flush
  refine ⟨rfl, rfl, hc.disk, hc.diagnostics, ?_, log_flush s.console⟩
  exact (congrArg Sink.accepted (Console.out_flush _)).trans (Sink.accepted_flush _)

/-- The session once it is closed with a result: if it ends well its output is flushed. -/
def closed (s : Session H) : Except ShellError Int → Session H
  | .ok _ => s.finish
  | .error _ => s

/-- A session that is closed rests. -/
theorem rests_closed (s : Session H) (result : Except ShellError Int) :
    s.Rests (s.closed result) := by
  cases result with
  | error e => exact .refl s
  | ok code => exact s.rests_finish

variable [Host H]

/-- The last step of a session follows a read of a command or is the launch of a line's command, and
the result belongs to what that came to. -/
theorem Step.over_cases {a : Stage} {s t : Session H} {result : Except ShellError Int}
    (hs : Step a s (.over result) t) :
    (∃ outcome, a = .heard outcome ∧ (Event.answered .command outcome).ending? = some result ∧
      t = s.closed result) ∨
    ∃ program command e, a = .launching program command ∧
      (s.launch .command command).1 = .error e ∧ e.ending? = some result ∧
      t = (s.launch .command command).2 ∧ t = t.closed result := by
  generalize hb : Stage.over result = b at hs
  cases hs with
  | finish =>
    cases hb
    exact Or.inl ⟨_, rfl, rfl, rfl⟩
  | fail =>
    cases hb
    exact Or.inl ⟨_, rfl, rfl, rfl⟩
  | @fatal _ program command e hl hf =>
    cases hb
    exact Or.inr ⟨program, command, e, rfl, hl, by rw [e.ending?_eq, if_pos hf], rfl, rfl⟩
  | @silence waited => cases waited <;> cases hb
  | @decline waited => cases waited <;> cases hb
  | @nothing waited => cases waited <;> cases hb
  | @again waited => cases waited <;> cases hb
  | @againFailed waited => cases waited <;> cases hb
  | _ => cases hb

variable [Host.Discreet H]

/-- Nothing comes about in a step that ends the session, except in a read of a command and in the
last step. -/
theorem Step.undecided_since {a b : Stage} {s t : Session H} (hs : Step a s b t) :
    b.Undecided (s.since t) := by
  have hquiet : t.console.log = s.console.log → Continues (s.since t) := by
    intro ht
    have hlog : t.console.log = s.console.log ++ [] := by rw [ht, List.append_nil]
    rw [since_eq hlog]
    simp [Continues]
  cases hs with
  | idle => exact hquiet rfl
  | notice => exact hquiet rfl
  | list =>
    obtain ⟨said, hc, hlist⟩ := s.calm_list
    rw [since_eq hlist]
    exact List.forall_mem_cons.2 ⟨rfl, continues_of_ambient hc.ambient⟩
  | answer =>
    obtain ⟨ambient, hambient, hask⟩ := s.log_ask .offer
    rw [since_eq hask]
    exact continues_framed rfl hambient rfl
  | silence =>
    obtain ⟨ambient, hambient, hask⟩ := s.log_ask .offer
    rw [since_eq hask]
    exact Stage.undecided_resumed.2 (continues_framed rfl hambient rfl)
  | decline => exact Stage.undecided_resumed.2 (hquiet rfl)
  | nothing =>
    obtain ⟨_, hc, -⟩ := s.calm_say Recall.nothingToRepeat
    rw [since_eq hc.log]
    exact Stage.undecided_resumed.2 (continues_of_ambient hc.ambient)
  | @accept _ _ _ entry =>
    obtain ⟨_, hc, -⟩ := s.calm_say (Recall.announcement entry)
    rw [since_eq hc.log]
    exact continues_of_ambient hc.ambient
  | again =>
    obtain ⟨ambient, hambient, hlaunch⟩ := s.log_launch .offer _
    rw [since_eq hlaunch]
    exact Stage.undecided_resumed.2 (continues_framed rfl hambient rfl)
  | @againFailed _ _ entry e =>
    obtain ⟨ambient, hambient, hlaunch⟩ := s.log_launch .offer (Command.ofEntry entry)
    obtain ⟨said, hc⟩ := (s.launch .offer (Command.ofEntry entry)).2.calm_warn_say
      (Recall.failureWarning entry e) (Recall.failureLine e)
    rw [since_eq (hc.log.trans (by rw [hlaunch, List.append_assoc]))]
    exact Stage.undecided_resumed.2 (continues_append.2
      ⟨continues_framed rfl hambient rfl, continues_of_ambient hc.ambient⟩)
  | hear =>
    obtain ⟨ambient, hambient, hask⟩ := s.log_ask .command
    rw [since_eq hask]
    exact ⟨_, rfl, List.forall_mem_cons.2 ⟨rfl, continues_of_ambient hambient⟩⟩
  | blank => exact hquiet rfl
  | remember => exact hquiet rfl
  | cut => exact hquiet rfl
  | finish => trivial
  | fail => trivial
  | keep =>
    rcases s.log_keep with hkeep | ⟨e, hkeep⟩
    · rw [since_eq hkeep]
      simp [Stage.Undecided, Continues, Event.ending?]
    · rw [since_eq hkeep]
      simp [Stage.Undecided, Continues, Event.ending?]
  | @launched _ _ command _ hl =>
    obtain ⟨ambient, hambient, hlaunch⟩ := s.log_launch .command command
    rw [since_eq hlaunch]
    exact continues_framed rfl hambient (by rw [hl]; rfl)
  | @complain _ program command e hl hf =>
    obtain ⟨ambient, hambient, hlaunch⟩ := s.log_launch .command command
    have hlast : (Event.launched .command command (.error e)).ending? = none := by
      rw [Event.ending?, e.ending?_eq, hf]
      rfl
    have hlog : ((s.launch .command command).2.complain (launchComplaint program e)).console.log =
        (s.launch .command command).2.console.log ++
          [.complained (launchComplaint program e)] := rfl
    rw [since_eq (hlog.trans (by rw [hlaunch, List.append_assoc]))]
    exact continues_append.2
      ⟨continues_framed rfl hambient (by rw [hl]; exact hlast), by simp [Continues, Event.ending?]⟩
  | fatal => trivial

/-- Before the session is over, nothing that has come about has ended it, except perhaps the read
that has just come to something. -/
theorem Step.undecided {a b : Stage} {s t : Session H} {events : List Event} (hs : Step a s b t)
    (h : a.Undecided events) : b.Undecided (events ++ s.since t) := by
  have hnew := hs.undecided_since
  cases hs with
  | blank => exact hnew.prepend (h.continues rfl)
  | remember => exact hnew.prepend (h.continues rfl)
  | cut => exact hnew.prepend (h.continues rfl)
  | finish => trivial
  | fail => trivial
  | _ => exact hnew.prepend h

/-- So it is at every stage of its course. -/
theorem Path.undecided {stage : Stage} {s t : Session H} (h : Path .polling s stage t) :
    stage.Undecided (s.since t) := by
  have hinit : Stage.polling.Undecided [] := fun _ he => by cases he
  refine (h.invariant (J := fun stage _ events => stage.Undecided events) hinit ?_).2
  intro b t c u xs hs hundecided
  exact ⟨t.since u, hs.path.log, hs.undecided hundecided⟩

/-- A session that is over has come upon something that ends it, for the first time, and was closed
then with the result that belongs to it. -/
theorem Path.conclusion {s u : Session H} {result : Except ShellError Int}
    (h : Path .polling s (.over result) u) :
    ∃ stage t before last, Path .polling s stage t ∧ s.since t = before ++ [last] ∧
      Continues before ∧ last.ending? = some result ∧ u = t.closed result := by
  cases h with
  | @step a t _ _ hpath hs =>
    rcases hs.over_cases with ⟨outcome, rfl, hending, hclosed⟩ |
      ⟨program, command, e, rfl, hl, hending, rfl, hclosed⟩
    · obtain ⟨before, hbefore, hcontinues⟩ := hpath.undecided
      exact ⟨_, t, before, _, hpath, hbefore, hcontinues, hending, hclosed⟩
    · -- The event that ends the session is the last one of the last step.
      obtain ⟨ambient, hambient, hlaunch⟩ := t.log_launch .command command
      have hlaunching : Continues (.launching .command command t.view :: ambient) :=
        List.forall_mem_cons.2 ⟨rfl, continues_of_ambient hambient⟩
      refine ⟨_, _, s.since t ++ (.launching .command command t.view :: ambient),
        .launched .command command (.error e), hpath.step hs, ?_,
        continues_append.2 ⟨hpath.undecided, hlaunching⟩, hending, hclosed⟩
      rw [hpath.since_append hs.path, since_eq hlaunch, hl, List.append_assoc]

/-- Whatever the file held, the host brings and the output takes: a session ends at the first event
that ends sessions, with the result that belongs to that event, and rests from there on. -/
theorem run_ends_at_first_ending (settings : Settings) (host : H) (console : Console) :
    let s := start settings host console
    ∃ stage t before last after,
      Path .polling s stage t ∧ s.since t = before ++ [last] ∧ s.events = before ++ last :: after ∧
      Continues before ∧ last.ending? = some s.run.1 ∧
      (∀ event ∈ after, event.isSent = true) ∧ s.run.2 = t.closed s.run.1 ∧ t.Rests s.run.2 := by
  intro s
  obtain ⟨stage, t, before, last, hpath, hsince, hcontinues, hlast, hclosed⟩ :=
    s.path_run.conclusion
  have hrests : t.Rests s.run.2 := hclosed ▸ t.rests_closed s.run.1
  obtain ⟨after, hlog, hafter⟩ := hrests.log
  refine ⟨stage, t, before, last, after, hpath, hsince, ?_, hcontinues, hlast, hafter, hclosed,
    hrests⟩
  rw [hpath.events_eq, hsince, since_eq hlog, List.append_assoc, List.singleton_append]

/-- A launch that cannot be made, a repeat that cannot fork and a failed read at the offer are
survived; a child of a line's command that cannot be waited for ends the session, with a line left
unread. -/
theorem run_ends_at_first_ending_of_wait :
    let s := ofScript [⟨.line "a", false⟩, ⟨.interrupted, false⟩, ⟨.line "r", true⟩,
      ⟨.failed (.bare .other), false⟩, ⟨.line "b", false⟩, ⟨.line "c", false⟩]
      [⟨.fails (.invalidArgument "nul"), false⟩, ⟨.fails (.fork .tryAgain), false⟩,
        ⟨.fails (.wait .noChild), false⟩]
    s.run.1 = .error (.wait .noChild) ∧ s.run.2.host.reads = [⟨.line "c", false⟩] ∧
      ∃ before last after, s.events = before ++ last :: after ∧ Continues before ∧
        last.ending? = some (.error (.wait .noChild)) ∧ ∀ event ∈ after, event.isSent = true := by
  intro s
  have hresult : s.run.1 = .error (.wait .noChild) := by decide +kernel
  obtain ⟨_, _, before, last, after, -, -, hevents, hbefore, hlast, hafter, -, -⟩ :=
    run_ends_at_first_ending (Settings.withHistoryPath (encode "h")) s.host
      (Console.fresh Disk.bare Sink.unbounded)
  refine ⟨hresult, by decide +kernel, before, last, after, hevents, hbefore, ?_, hafter⟩
  exact hlast.trans (congrArg some hresult)

end Session

end RecallShell
