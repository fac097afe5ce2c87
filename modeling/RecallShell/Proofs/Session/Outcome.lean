import RecallShell.Proofs.Session.Complaint
import RecallShell.Proofs.Session.Record

/-!
# What a step comes to

The log tells what the reads of commands, the attempts to write the history and the launches have
come to, and what has been complained of. In each step at most one thing is tried: what comes of it
is told first, and a complaint follows where it fails in a way that is complained of.
-/

namespace RecallShell

open Text

/-- Whether an event tells what a read of a command, an attempt to write the history or a launch has
come to, or a complaint. -/
def Event.isOutcome : Event → Bool
  | .answered .command _ | .saved _ | .launched .. | .complained _ => true
  | _ => false

/-- What has come of reads of commands, attempts to write the history and launches, with the
complaints, in order. -/
def outcomesOf (events : List Event) : List Event := events.filter Event.isOutcome

@[simp] theorem outcomesOf_nil : outcomesOf [] = [] := rfl

@[simp] theorem outcomesOf_append (xs ys : List Event) :
    outcomesOf (xs ++ ys) = outcomesOf xs ++ outcomesOf ys := List.filter_append ..

/-- Ambient events are no outcomes. -/
theorem Event.isOutcome_of_isAmbient {event : Event} (h : event.isAmbient = true) :
    event.isOutcome = false := by
  cases event <;> first | rfl | cases h

theorem outcomesOf_ambient {events : List Event} (h : ∀ event ∈ events, event.isAmbient = true) :
    outcomesOf events = [] :=
  List.filter_eq_nil_iff.2 fun event he => by simp [Event.isOutcome_of_isAmbient (h event he)]

/-- Of events in a frame the last one can be an outcome. -/
theorem outcomesOf_framed {first last : Event} {ambient : List Event}
    (hfirst : first.isOutcome = false) (hambient : ∀ event ∈ ambient, event.isAmbient = true) :
    outcomesOf (first :: ambient ++ [last]) = outcomesOf [last] := by
  rw [outcomesOf_append, outcomesOf, List.filter_cons_of_neg (by simp [hfirst])]
  exact congrArg (· ++ _) (outcomesOf_ambient hambient)

/-- All complaints are outcomes. -/
theorem complaintsOf_outcomesOf (events : List Event) :
    complaintsOf (outcomesOf events) = complaintsOf events := by
  rw [complaintsOf, outcomesOf, List.filterMap_filter]
  refine List.filterMap_congr fun event _ => ?_
  cases event <;> first | rfl | simp [Event.complaint?]

/-- What an event says that a launch has come to. -/
def Event.launchResult? : Event → Option ((Prompt × Command) × Except ShellError Launched)
  | .launched prompt command result => some ((prompt, command), result)
  | _ => none

/-- What the launches that events tell of have come to, in order. -/
def launchResultsOf (events : List Event) : List ((Prompt × Command) × Except ShellError Launched) :=
  events.filterMap Event.launchResult?

@[simp] theorem launchResultsOf_append (xs ys : List Event) :
    launchResultsOf (xs ++ ys) = launchResultsOf xs ++ launchResultsOf ys := List.filterMap_append

/-- A result is listed where an event tells of it. -/
theorem mem_launchResultsOf {events : List Event} {prompt : Prompt} {command : Command}
    {result : Except ShellError Launched} :
    ((prompt, command), result) ∈ launchResultsOf events ↔
      .launched prompt command result ∈ events := by
  simp only [launchResultsOf, List.mem_filterMap]
  constructor
  · rintro ⟨event, hmem, hevent⟩
    cases event <;> cases hevent
    exact hmem
  · exact fun hmem => ⟨_, hmem, rfl⟩

/-- All that launches have come to is among the outcomes. -/
theorem launchResultsOf_outcomesOf (events : List Event) :
    launchResultsOf (outcomesOf events) = launchResultsOf events := by
  rw [launchResultsOf, outcomesOf, List.filterMap_filter]
  refine List.filterMap_congr fun event _ => ?_
  cases event <;> first | rfl | simp [Event.launchResult?]

/-- Complaints tell of no launch. -/
theorem launchResultsOf_map_complained (texts : List String) :
    launchResultsOf (texts.map .complained) = [] := by
  rw [launchResultsOf, List.filterMap_map]
  exact List.filterMap_eq_nil_iff.2 fun _ _ => rfl

/-- What is complained of when an attempt to write the history has come to something. -/
def saveReports : Option ShellError → List String
  | none => []
  | some e => [s!"Error opening file: {e.message}\n"]

/-- What is complained of when the launch of a line's command has come to something. A fatal failure
is not complained of. -/
def launchReports (program : String) : Except ShellError Launched → List String
  | .ok _ => []
  | .error e => if e.isFatal then [] else [s!"{program}: {e.message}\n"]

namespace Session

variable {H : Type}

/-- From one moment of a session to a later one some outcomes are told of. -/
def Yields (s t : Session H) (outcomes : List Event) : Prop :=
  ∃ events, t.console.log = s.console.log ++ events ∧ outcomesOf events = outcomes

/-- The log may stay as it is. -/
theorem Yields.of_log_eq {s t : Session H} (h : t.console.log = s.console.log) : s.Yields t [] :=
  ⟨[], by rw [h, List.append_nil], rfl⟩

theorem Yields.trans {s t u : Session H} {xs ys : List Event} (h : s.Yields t xs)
    (h' : t.Yields u ys) : s.Yields u (xs ++ ys) := by
  obtain ⟨new, hlog, rfl⟩ := h
  obtain ⟨new', hlog', rfl⟩ := h'
  exact ⟨new ++ new', by rw [hlog', hlog, List.append_assoc], outcomesOf_append _ _⟩

/-- In a calm lapse nothing is told of. -/
theorem Yields.of_calm {s t : Session H} {events : List Event}
    (h : s.console.Calm t.console events) : s.Yields t [] :=
  ⟨events, h.log, outcomesOf_ambient h.ambient⟩

/-- What has happened since tells of these outcomes. -/
theorem Yields.of_since {s t : Session H} {outcomes : List Event} (h : s.Yields t outcomes) :
    outcomesOf (s.since t) = outcomes := by
  obtain ⟨events, hlog, houtcomes⟩ := h
  rwa [since_eq hlog]

/-- A complaint is told of. -/
theorem yields_complain (s : Session H) (text : String) :
    s.Yields (s.complain text) [.complained text] :=
  ⟨[.complained text], rfl, rfl⟩

/-- What an attempt to write the history now fails with, if it fails. -/
def saveFailure? (s : Session H) : Option ShellError :=
  match (s.history.save s.path s.console.disk).1 with
  | .ok () => none
  | .error e => some e

/-- An attempt to write the history is told of, with a complaint if it fails. -/
theorem yields_keep (s : Session H) :
    s.Yields s.keep (.saved s.saveFailure? :: (saveReports s.saveFailure?).map .complained) := by
  rcases hsave : s.history.save s.path s.console.disk with ⟨_ | e, disk⟩
  · rw [saveFailure?, hsave]
    exact ⟨_, log_keep_of_error hsave, rfl⟩
  · rw [saveFailure?, hsave, keep_of_ok hsave]
    exact ⟨[.saved none], rfl, rfl⟩

variable [Host H]

/-- What the step at a stage comes to. -/
def outcomes (s : Session H) : Stage → List Event
  | .prompting => [.answered .command (s.ask .command).1]
  | .keeping .. => .saved s.saveFailure? :: (saveReports s.saveFailure?).map .complained
  | .repeating _ entry =>
    [.launched .offer (Command.ofEntry entry) (s.launch .offer (Command.ofEntry entry)).1]
  | .launching program command =>
    .launched .command command (s.launch .command command).1 ::
      (launchReports program (s.launch .command command).1).map .complained
  | _ => []

variable [Host.Discreet H]

/-- What a read comes to is told of if a command was asked for. -/
theorem yields_ask (s : Session H) (prompt : Prompt) :
    s.Yields (s.ask prompt).2 (outcomesOf [.answered prompt (s.ask prompt).1]) := by
  obtain ⟨ambient, hambient, hlog⟩ := s.log_ask prompt
  exact ⟨_, hlog, outcomesOf_framed rfl hambient⟩

/-- What a launch comes to is told of. -/
theorem yields_launch (s : Session H) (prompt : Prompt) (command : Command) :
    s.Yields (s.launch prompt command).2
      [.launched prompt command (s.launch prompt command).1] := by
  obtain ⟨ambient, hambient, hlog⟩ := s.log_launch prompt command
  exact ⟨_, hlog, outcomesOf_framed rfl hambient⟩

/-- What a step comes to depends on its stage. -/
theorem Step.yields {a b : Stage} {s t : Session H} (hs : Step a s b t) :
    s.Yields t (s.outcomes a) := by
  cases hs with
  | idle | notice | decline | blank | remember | cut | fail => exact .of_log_eq rfl
  | list =>
    obtain ⟨said, hc, hlog⟩ := s.calm_list
    have hnone : outcomesOf said = [] := outcomesOf_ambient hc.ambient
    exact ⟨_, hlog, hnone⟩
  | answer | silence => exact s.yields_ask .offer
  | nothing =>
    obtain ⟨_, hc, -⟩ := s.calm_say Recall.nothingToRepeat
    exact .of_calm hc
  | @accept _ _ _ entry =>
    obtain ⟨_, hc, -⟩ := s.calm_say (Recall.announcement entry)
    exact .of_calm hc
  | again => exact s.yields_launch .offer _
  | @againFailed _ _ entry e =>
    obtain ⟨_, hc⟩ := (s.launch .offer (Command.ofEntry entry)).2.calm_warn_say
      (Recall.failureWarning entry e) (Recall.failureLine e)
    exact (s.yields_launch .offer _).trans (.of_calm hc)
  | hear => exact s.yields_ask .command
  | finish =>
    obtain ⟨_, hc, -⟩ := s.console.calm_flush
    exact .of_calm (t := s.finish) hc
  | keep => exact s.yields_keep
  | @launched _ program command _ hl =>
    have hyields := s.yields_launch .command command
    simpa [outcomes, hl, launchReports] using hyields
  | @complain _ program command e hl hf =>
    have hyields := (s.yields_launch .command command).trans
      (yields_complain _ (launchComplaint program e))
    simpa [outcomes, hl, hf, launchReports, launchComplaint] using hyields
  | @fatal _ program command e hl hf =>
    have hyields := s.yields_launch .command command
    simpa [outcomes, hl, hf, launchReports] using hyields

/-- What is told of since a step began is what it comes to. -/
theorem Step.outcomesOf_since {a b : Stage} {s t : Session H} (hs : Step a s b t) :
    outcomesOf (s.since t) = s.outcomes a :=
  hs.yields.of_since

/-- Every event of a path comes about in one of its steps, behind what came before that step and in
it. -/
theorem Path.exists_step {a b : Stage} {s u : Session H} (h : Path a s b u)
    {before after : List Event} {event : Event} (he : s.since u = before ++ event :: after) :
    ∃ c t c' t' xs ys, Path a s c t ∧ Step c t c' t' ∧ Path c' t' b u ∧
      t.since t' = xs ++ event :: ys ∧ before = s.since t ++ xs := by
  induction h generalizing after with
  | refl => simp at he
  | @step c t c' u hpath hs ih =>
    rw [hpath.since_append hs.path] at he
    rcases append_eq_append_cons_cases he with ⟨rest, hold, -⟩ | ⟨xs, hbefore, hnew⟩
    · obtain ⟨d, r, d', r', xs, ys, hr, hstep, hrest, hsince, hbefore⟩ := ih hold
      exact ⟨d, r, d', r', xs, ys, hr, hstep, hrest.step hs, hsince, hbefore⟩
    · exact ⟨c, t, c', u, xs, after, hpath, hs, .refl, hnew, hbefore⟩

end Session

end RecallShell
