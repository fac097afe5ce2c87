import RecallShell.Proofs.Session.Trace

/-!
# The course of a session in steps

Between two things that an observer can see a session stands at one of ten stages. Each step leads
from one stage to the next and does one thing. Every run is a path of such steps, so what each step
preserves holds along the whole run, and at every stage that the run comes through.
-/

namespace RecallShell

open Recall

/-- Where a session stands between two steps. -/
inductive Stage where
  /-- A turn begins: is an interrupt waiting? -/
  | polling
  /-- An interrupt is about to be handled, one that was waiting when the turn began or one that cut
  a read short. -/
  | handling (waited : Bool)
  /-- The history has been listed. -/
  | offering (waited : Bool)
  /-- The offer has been answered. -/
  | replied (waited : Bool) (answer : String)
  /-- The newest entry is about to be launched once more. -/
  | repeating (waited : Bool) (entry : String)
  /-- A command is about to be asked for. -/
  | prompting
  /-- The read of a command has come to something. -/
  | heard (outcome : ReadOutcome)
  /-- A program has been added to the history. -/
  | keeping (program : String) (command : Command)
  /-- A command is about to be launched. -/
  | launching (program : String) (command : Command)
  /-- The session has ended. -/
  | over (result : Except ShellError Int)

/-- Where a session goes on after an interrupt: with the read that the turn is for, or with a new
turn. -/
def Stage.resumed (waited : Bool) : Stage := if waited then .prompting else .polling

/-- Where a session goes on after a line: with a new turn, or not at all. -/
def Stage.after : Except ShellError Unit → Stage
  | .ok () => .polling
  | .error e => .over (.error e)

/-- Where a turn leads to. -/
def Turn.reached {H : Type} : Turn H → Stage × Session H
  | .again s => (.polling, s)
  | .ended result s => (.over result, s)

namespace Session

variable {H : Type}

/-- The session after the history has been listed for an interrupt, which no longer waits. -/
def list (s : Session H) : Session H :=
  (s.clearPending.record .interrupting).sayAll (listing s.history.entries)

/-- Listing the history notes that an interrupt is being handled, and is calm from there on. -/
theorem calm_list (s : Session H) :
    ∃ said, (s.clearPending.record .interrupting).console.Calm s.list.console said ∧
      s.list.console.log = s.console.log ++ (.interrupting :: said) := by
  obtain ⟨said, hc, -⟩ := (s.clearPending.record .interrupting).calm_sayAll
    (listing s.history.entries)
  refine ⟨said, hc, ?_⟩
  rw [list, hc.log]
  simp [record, clearPending, Console.record, Console.takePending]

variable [Host H]

/-- One step of a session. -/
inductive Step : Stage → Session H → Stage → Session H → Prop
  | idle {s} (h : s.console.pending = false) : Step .polling s .prompting s
  | notice {s} (h : s.console.pending = true) : Step .polling s (.handling true) s
  | list {waited s} : Step (.handling waited) s (.offering waited) s.list
  | answer {waited s answer} (h : (s.ask .offer).1 = .line answer) :
      Step (.offering waited) s (.replied waited answer) (s.ask .offer).2
  | silence {waited s} (h : ∀ answer, (s.ask .offer).1 ≠ .line answer) :
      Step (.offering waited) s (.resumed waited) (s.ask .offer).2
  | decline {waited s answer} (h : accepts answer = false) :
      Step (.replied waited answer) s (.resumed waited) s
  | nothing {waited s answer} (h : accepts answer = true) (hc : candidate? s.history = none) :
      Step (.replied waited answer) s (.resumed waited) (s.say nothingToRepeat)
  | accept {waited s answer entry} (h : accepts answer = true)
      (hc : candidate? s.history = some entry) :
      Step (.replied waited answer) s (.repeating waited entry) (s.say (announcement entry))
  | again {waited s entry launched}
      (h : (s.launch .offer (Command.ofEntry entry)).1 = .ok launched) :
      Step (.repeating waited entry) s (.resumed waited)
        (s.launch .offer (Command.ofEntry entry)).2
  | againFailed {waited s entry e} (h : (s.launch .offer (Command.ofEntry entry)).1 = .error e) :
      Step (.repeating waited entry) s (.resumed waited)
        (((s.launch .offer (Command.ofEntry entry)).2.warn (failureWarning entry e)).say
          (failureLine e))
  | hear {s} : Step .prompting s (.heard (s.ask .command).1) (s.ask .command).2
  | blank {s line} (h : (Command.parse line).program? = none) :
      Step (.heard (.line line)) s .polling s
  | remember {s line program} (h : (Command.parse line).program? = some program) :
      Step (.heard (.line line)) s (.keeping program (Command.parse line)) (s.remember program)
  | cut {s} : Step (.heard .interrupted) s (.handling false) s
  | finish {s} : Step (.heard .endOfStream) s (.over (.ok 0)) s.finish
  | fail {s cause} : Step (.heard (.failed cause)) s (.over (.error (.read cause))) s
  | keep {s program command} :
      Step (.keeping program command) s (.launching program command) s.keep
  | launched {s program command launched}
      (h : (s.launch .command command).1 = .ok launched) :
      Step (.launching program command) s .polling (s.launch .command command).2
  | complain {s program command e} (h : (s.launch .command command).1 = .error e)
      (hf : e.isFatal = false) :
      Step (.launching program command) s .polling
        ((s.launch .command command).2.complain (launchComplaint program e))
  | fatal {s program command e} (h : (s.launch .command command).1 = .error e)
      (hf : e.isFatal = true) :
      Step (.launching program command) s (.over (.error e)) (s.launch .command command).2

/-- Steps one after the other. -/
inductive Path (a : Stage) (s : Session H) : Stage → Session H → Prop
  | refl : Path a s a s
  | step {b t c u} : Path a s b t → Step b t c u → Path a s c u

theorem Path.trans {a b c : Stage} {s t u : Session H} (h : Path a s b t) (h' : Path b t c u) :
    Path a s c u := by
  induction h' with
  | refl => exact h
  | step _ hs ih => exact ih.step hs

theorem Step.path {a b : Stage} {s t : Session H} (h : Step a s b t) : Path a s b t :=
  Path.refl.step h

/-! ## Every run is a path -/

/-- Repeating an entry is a path back to where the interrupt came. -/
theorem path_repeatEntry (s : Session H) (waited : Bool) (entry : String) :
    Path (.repeating waited entry) (s.say (announcement entry)) (.resumed waited)
      (s.repeatEntry entry).2 := by
  unfold repeatEntry
  split
  · rename_i launched t hl
    have hs : Step (.repeating waited entry) (s.say (announcement entry)) (.resumed waited) _ :=
      Step.again (congrArg Prod.fst hl)
    rw [hl] at hs
    exact hs.path
  · rename_i e t hl
    have hs : Step (.repeating waited entry) (s.say (announcement entry)) (.resumed waited) _ :=
      Step.againFailed (congrArg Prod.fst hl)
    rw [hl] at hs
    exact hs.path

/-- Doing what the answer asks for is a path back to where the interrupt came. -/
theorem path_answerOffer (s : Session H) (waited : Bool) (answer : String) :
    Path (.replied waited answer) s (.resumed waited) (s.answerOffer answer).2 := by
  unfold answerOffer
  split
  · rename_i ha
    split
    · rename_i entry hc
      exact (Step.accept ha hc).path.trans (s.path_repeatEntry waited entry)
    · rename_i hc
      exact (Step.nothing ha hc).path
  · rename_i ha
    exact (Step.decline (by simpa using ha)).path

/-- What the read at the offer came to decides what is done. -/
def takeReply (s : Session H) : ReadOutcome → Recalled × Session H
  | .line answer => s.answerOffer answer
  | _ => (.ignored, s)

theorem handleInterrupt_eq_takeReply {s t : Session H}
    (h : t = (s.record .interrupting).sayAll (listing s.history.entries)) :
    s.handleInterrupt = (t.ask .offer).2.takeReply (t.ask .offer).1 := by
  subst h
  unfold handleInterrupt
  split
  · rename_i hr
    rw [hr]
    rfl
  · rename_i outcome _ hne hr
    rw [hr]
    cases outcome with
    | line answer => exact absurd rfl (hne answer)
    | _ => rfl

/-- Handling an interrupt is a path back to where the interrupt came. -/
theorem path_interrupt (s : Session H) (waited : Bool) :
    Path (.handling waited) s (.resumed waited) s.interrupt := by
  have hlist : Path (.handling waited) s (.offering waited) s.list := Step.list.path
  refine hlist.trans ?_
  rw [interrupt, handleInterrupt_eq_takeReply (s := s.clearPending) (t := s.list) rfl]
  cases hr : (s.list.ask .offer).1 with
  | line answer =>
    exact (Step.answer hr).path.trans ((s.list.ask .offer).2.path_answerOffer waited answer)
  | _ => exact (Step.silence (by simp [hr])).path

/-- Handling a waiting interrupt is a path to the read of a command. -/
theorem path_settle (s : Session H) : Path .polling s .prompting s.settle := by
  unfold settle
  split
  · rename_i hp
    exact (Step.notice hp).path.trans (s.path_interrupt true)
  · rename_i hp
    exact (Step.idle (by simpa using hp)).path

/-- Launching a command is a step to a new turn or to the end. -/
theorem step_launchMain (s : Session H) (program : String) (command : Command) :
    Step (.launching program command) s (Stage.after (s.launchMain program command).1)
      (s.launchMain program command).2 := by
  unfold launchMain
  split
  · rename_i launched t hl
    have hs : Step (.launching program command) s .polling _ :=
      Step.launched (congrArg Prod.fst hl)
    rwa [hl] at hs
  · rename_i e t hl
    split
    · rename_i hf
      have hs : Step (.launching program command) s (.over (.error e)) _ :=
        Step.fatal (congrArg Prod.fst hl) hf
      rwa [hl] at hs
    · rename_i hf
      have hs : Step (.launching program command) s .polling _ :=
        Step.complain (congrArg Prod.fst hl) (by simpa using hf)
      rwa [hl] at hs

/-- What launching a command comes to: a failure that is not fatal is as good as success. -/
theorem fst_launchMain (s : Session H) (program : String) (command : Command) :
    (s.launchMain program command).1 =
      match (s.launch .command command).1 with
      | .ok _ => .ok ()
      | .error e => if e.isFatal then .error e else .ok () := by
  unfold launchMain
  rcases s.launch .command command with ⟨e | launched, t⟩
  · cases hf : e.isFatal <;> simp [hf]
  · rfl

/-- Doing what a line asks for is a path to a new turn or to the end. -/
theorem path_execute (s : Session H) (line : String) :
    Path (.heard (.line line)) s (Stage.after (s.execute line).1) (s.execute line).2 := by
  simp only [execute]
  split
  · rename_i hp
    exact (Step.blank hp).path
  · rename_i program hp
    exact ((Step.remember hp).path.step Step.keep).step
      ((s.remember program).keep.step_launchMain program (Command.parse line))

/-- What comes of the read of a command is a path to a new turn or to the end. -/
theorem path_proceed (s : Session H) (outcome : ReadOutcome) :
    Path (.heard outcome) s (Turn.reached (s.proceed outcome)).1
      (Turn.reached (s.proceed outcome)).2 := by
  cases outcome with
  | line line =>
    have h := s.path_execute line
    simp only [proceed]
    split
    · rename_i t he
      rw [he] at h
      exact h
    · rename_i e t he
      rw [he] at h
      exact h
  | interrupted => exact Step.cut.path.trans (s.path_interrupt false)
  | endOfStream => exact Step.finish.path
  | failed cause => exact Step.fail.path

/-- A line with a program leads to where the launch of its command leads. -/
theorem reached_proceed_line {s : Session H} {line program : String}
    (h : (Command.parse line).program? = some program) :
    (s.proceed (.line line)).reached.1 =
      Stage.after ((s.remember program).keep.launchMain program (Command.parse line)).1 := by
  simp only [proceed, execute, h]
  rcases (s.remember program).keep.launchMain program (Command.parse line) with ⟨_ | _, t⟩ <;> rfl

/-- A turn is a path from its beginning to a new turn or to the end. -/
theorem path_turn (s : Session H) :
    Path .polling s (Turn.reached s.turn).1 (Turn.reached s.turn).2 :=
  (s.path_settle.step Step.hear).trans
    ((s.settle.ask .command).2.path_proceed (s.settle.ask .command).1)

/-- A run is a path from its beginning to the end. -/
theorem path_run (s : Session H) : Path .polling s (.over s.run.1) s.run.2 := by
  induction s using run.induct with
  | case1 s t ht ih =>
    have h := s.path_turn
    rw [ht] at h
    rw [run, ht]
    exact h.trans ih
  | case2 s result t ht =>
    have h := s.path_turn
    rw [ht] at h
    rw [run, ht]
    exact h

/-! ## What holds along a path -/

/-- What each step preserves holds at every stage that a path comes through, with what the log has
gained by then. -/
theorem Path.invariant {J : Stage → Session H → List Event → Prop} {s : Session H} {a : Stage}
    (init : J a s [])
    (step : ∀ {b t c u xs}, Step b t c u → J b t xs →
      ∃ ys, u.console.log = t.console.log ++ ys ∧ J c u (xs ++ ys))
    {c : Stage} {u : Session H} (h : Path a s c u) :
    u.console.log = s.console.log ++ s.since u ∧ J c u (s.since u) := by
  suffices hlog : ∃ xs, u.console.log = s.console.log ++ xs ∧ J c u xs by
    obtain ⟨xs, hx, hj⟩ := hlog
    rw [since_eq hx]
    exact ⟨hx, hj⟩
  induction h with
  | refl => exact ⟨[], by simp, init⟩
  | step _ hs ih =>
    obtain ⟨xs, hx, hj⟩ := ih
    obtain ⟨ys, hy, hj'⟩ := step hs hj
    exact ⟨xs ++ ys, by rw [hy, hx, List.append_assoc], hj'⟩

/-! ## Every path leads to the end -/

/-- At a stage there is at most one step. -/
theorem Step.unique {a b c : Stage} {s t u : Session H} (h : Step a s b t) (h' : Step a s c u) :
    b = c ∧ t = u := by
  cases h <;> cases h' <;> simp_all

/-- A path that is not over at once begins with a step. -/
theorem Path.eq_or_step {a b : Stage} {s t : Session H} (h : Path a s b t) :
    (a = b ∧ s = t) ∨ ∃ c u, Step a s c u ∧ Path c u b t := by
  induction h with
  | refl => exact Or.inl ⟨rfl, rfl⟩
  | step _ hs ih =>
    rcases ih with ⟨rfl, rfl⟩ | ⟨c, u, hfirst, hrest⟩
    · exact Or.inr ⟨_, _, hs, Path.refl⟩
    · exact Or.inr ⟨c, u, hfirst, hrest.step hs⟩

/-- Of two paths from one stage one leads on from where the other has come to. -/
theorem Path.total {a b c : Stage} {s t u : Session H} (h : Path a s b t) (h' : Path a s c u) :
    Path b t c u ∨ Path c u b t := by
  induction h' with
  | refl => exact Or.inr h
  | step _ hs ih =>
    rcases ih with hon | hback
    · exact Or.inl (hon.step hs)
    · rcases hback.eq_or_step with ⟨rfl, rfl⟩ | ⟨_, _, hs', hrest⟩
      · exact Or.inl hs.path
      · obtain ⟨rfl, rfl⟩ := hs.unique hs'
        exact Or.inr hrest

/-- What is over does not go on. -/
theorem Path.eq_of_over {result : Except ShellError Int} {b : Stage} {s t : Session H}
    (h : Path (.over result) s b t) : b = .over result ∧ t = s := by
  rcases h.eq_or_step with ⟨rfl, rfl⟩ | ⟨_, _, hs, -⟩
  · exact ⟨rfl, rfl⟩
  · cases hs

/-- Every stage that a session comes to leads to its end. -/
theorem Path.to_end {stage : Stage} {s t : Session H} (h : Path .polling s stage t) :
    Path stage t (.over s.run.1) s.run.2 := by
  rcases h.total s.path_run with hon | hback
  · exact hon
  · obtain ⟨rfl, rfl⟩ := hback.eq_of_over
    exact Path.refl

/-- A session ends in one way only. -/
theorem Path.over_unique {s t : Session H} {result : Except ShellError Int}
    (h : Path .polling s (.over result) t) : s.run = (result, t) := by
  obtain ⟨hresult, ht⟩ := h.to_end.eq_of_over
  rw [← ht, ← Stage.over.inj hresult]

end Session

end RecallShell
