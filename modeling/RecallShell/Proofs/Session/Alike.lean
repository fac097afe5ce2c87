import RecallShell.Proofs.Session.Heading
import RecallShell.Proofs.Session.Parallel

/-!
# Sessions that run alike

Scripted sessions that agree in their history, their script, their disk and the flag of interrupts
go side by side, whatever their logs, diagnostics and outputs hold already: they launch the same
commands, and outputs that do not fail accept the same bytes.
-/

namespace RecallShell

open Text

namespace Session

variable {s t s' t' : Session Script}

/-- A read past the end of the script meets the end of the stream. -/
theorem ask_of_nil (h : s.host.reads = []) (prompt : Prompt) :
    s.ask prompt = (.endOfStream, (s.record (.asked prompt s.view)).record
      (.answered prompt .endOfStream)) := by
  have hread : ∀ c, Host.readLine prompt s.host c = (.endOfStream, s.host, c) := by
    intro c
    change s.host.readLine c = _
    rw [Script.readLine, h]
  simp only [Session.ask, record, hread]

/-- The session after one read of its script, which leaves the others. -/
def afterRead (s : Session Script) (prompt : Prompt) (item : ScriptedRead)
    (rest : List ScriptedRead) : Session Script :=
  { s with
    host := { s.host with reads := rest }
    console := ((s.console.record (.asked prompt s.view)).signalIf item.signal).record
      (.answered prompt item.outcome) }

/-- A read takes the first one of the script. -/
theorem ask_of_cons {item : ScriptedRead} {rest : List ScriptedRead}
    (h : s.host.reads = item :: rest) (prompt : Prompt) :
    s.ask prompt = (item.outcome, s.afterRead prompt item rest) := by
  have hread : ∀ c, Host.readLine prompt s.host c =
      (item.outcome, { s.host with reads := rest }, c.signalIf item.signal) := by
    intro c
    change s.host.readLine c = _
    rw [Script.readLine, h]
  simp only [Session.ask, record, afterRead, hread]

/-- The session after one launch of its script, which leaves the others. -/
def afterLaunch (s : Session Script) (prompt : Prompt) (command : Command)
    (result : Except ShellError Launched) (rest : List ScriptedLaunch) (signal : Bool) :
    Session Script :=
  { s with
    host := { s.host with launches := rest }
    console := ((s.console.record (.launching prompt command s.view)).signalIf signal).record
      (.launched prompt command result) }

/-- A launch past the end of the script goes as it was asked for. -/
theorem launch_of_nil (h : s.host.launches = []) (prompt : Prompt) (command : Command) :
    s.launch prompt command = ((LaunchFate.asAsked 0).result command,
      s.afterLaunch prompt command ((LaunchFate.asAsked 0).result command) [] false) := by
  have hlaunch : ∀ c, Host.launch command s.host c =
      ((LaunchFate.asAsked 0).result command, { s.host with launches := [] }, c) := by
    intro c
    change Script.launch command s.host c = _
    rw [Script.launch, h]
    rfl
  simp only [Session.launch, record, hlaunch]
  rfl

/-- A launch takes the first one of the script. -/
theorem launch_of_cons {item : ScriptedLaunch} {rest : List ScriptedLaunch}
    (h : s.host.launches = item :: rest) (prompt : Prompt) (command : Command) :
    s.launch prompt command = (item.fate.result command,
      s.afterLaunch prompt command (item.fate.result command) rest item.signal) := by
  have hlaunch : ∀ c, Host.launch command s.host c =
      (item.fate.result command, { s.host with launches := rest }, c.signalIf item.signal) := by
    intro c
    change Script.launch command s.host c = _
    rw [Script.launch, h]
    rfl
  simp only [Session.launch, record, hlaunch]
  rfl

/-- Two sessions that differ at most in their logs, diagnostics and outputs, which do not fail. -/
structure Alike (s s' : Session Script) : Prop where
  /-- Their histories are kept at the same place. -/
  path : s'.path = s.path
  /-- They have the same history. -/
  history : s'.history = s.history
  /-- The same is left of their scripts. -/
  host : s'.host = s.host
  /-- They have the same disk. -/
  disk : s'.console.disk = s.console.disk
  /-- An interrupt waits for both or for neither. -/
  pending : s'.console.pending = s.console.pending
  /-- The output of the one does not fail. -/
  lossless : s.console.out.Lossless
  /-- Nor does that of the other. -/
  lossless' : s'.console.out.Lossless

/-- From `s` to `t` the output accepts the same bytes as from `s'` to `t'`, and `t` and `t'` are
alike. -/
def InStep (s t s' t' : Session Script) : Prop :=
  Alike t t' ∧ ∃ said, t.console.out.accepted = s.console.out.accepted ++ said ∧
    t'.console.out.accepted = s'.console.out.accepted ++ said

/-- Sessions that are alike go side by side from where they are. -/
theorem Alike.parallel (h : Alike s s') : Parallel s s s' s' :=
  ⟨h.path, h.history, h.host, .refl h.disk h.pending h.lossless.chunk h.lossless'.chunk⟩

/-- Sessions that have gone side by side from where they were alike are so still. -/
theorem Alike.inStep (h : Alike s s') (hp : Parallel s t s' t') : InStep s t s' t' := by
  obtain ⟨said, hsaid, hsaid'⟩ := hp.console.offered
  refine ⟨⟨hp.path, hp.history, hp.host, hp.console.disk, hp.console.pending,
    hsaid.lossless h.lossless, hsaid'.lossless h.lossless'⟩, said, ?_, ?_⟩
  · exact hsaid.accepted_of_lossless h.lossless
  · exact hsaid'.accepted_of_lossless h.lossless'

/-- Sessions that are alike take the same step. -/
theorem Step.inStep {a b : Stage} (hs : Step a s b t) (h : Alike s s') :
    ∃ t', Step a s' b t' ∧ InStep s t s' t' := by
  obtain ⟨t', hs', hp⟩ := h.parallel.step hs
  exact ⟨t', hs', h.inStep hp⟩

/-- The traces of output launch nothing. -/
theorem launchesOf_filter (events : List Event) :
    launchesOf (events.filter fun event => !event.isTrace) = launchesOf events := by
  rw [launchesOf, List.filterMap_filter, launchesOf]
  congr 1
  funext event
  cases event <;> rfl

/-- Sessions that go side by side launch the same commands. -/
theorem Parallel.launchesOf_since {a b : Stage} (hp : Parallel s t s' t') (h : Path a s b t)
    (h' : Path a s' b t') : launchesOf (s'.since t') = launchesOf (s.since t) := by
  obtain ⟨events, hevents, hevents'⟩ := hp.console.deeds
  rw [Console.deeds, h.log, List.filter_append] at hevents
  rw [Console.deeds, h'.log, List.filter_append] at hevents'
  rw [← launchesOf_filter, List.append_cancel_left hevents', ← List.append_cancel_left hevents,
    launchesOf_filter]

/-- Sessions that are alike take the same course, along which they launch the same commands. -/
theorem Path.inStep {a b : Stage} (h : Path a s b t) (halike : Alike s s') :
    ∃ t', Path a s' b t' ∧ InStep s t s' t' ∧
      launchesOf (s'.since t') = launchesOf (s.since t) := by
  obtain ⟨t', h', hp⟩ := halike.parallel.along h
  exact ⟨t', h', halike.inStep hp, hp.launchesOf_since h h'⟩

/-- The bytes that the output accepts in the run of a session. -/
def output (s : Session Script) : Bytes :=
  s.run.2.console.out.accepted.drop s.console.out.accepted.length

/-- Behind what the output had accepted before stands what it accepts in the run. -/
theorem InStep.output_eq (h : InStep s s.run.2 s' s'.run.2) : s'.output = s.output := by
  obtain ⟨-, said, hsaid, hsaid'⟩ := h
  rw [output, output, hsaid, hsaid', List.drop_left, List.drop_left]

/-- Sessions that are alike come to the same. -/
theorem Alike.run (h : Alike s s') : s'.run.1 = s.run.1 ∧ InStep s s.run.2 s' s'.run.2 ∧
    launchesOf s'.events = launchesOf s.events := by
  obtain ⟨t', hpath', hin, hlaunches⟩ := s.path_run.inStep h
  have hrun := hpath'.over_unique
  rw [events, hrun]
  exact ⟨rfl, hin, hlaunches⟩

end Session

end RecallShell
