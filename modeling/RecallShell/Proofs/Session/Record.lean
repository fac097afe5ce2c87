import RecallShell.Disk.Standard
import RecallShell.Proofs.History.Newest
import RecallShell.Proofs.Session.Course

/-!
# What the history holds

The history of a session holds the newest of what it started with and of the programs recorded
since: those of the lines that were read as commands. At every look at the session this is so, also
while an interrupt is handled, and also at the end, however the session ends. Between the read of a
line and its record, when nobody looks, one program is due.
-/

namespace RecallShell

open Text

/-- The program that an event has the session record: that of a line read as a command. -/
def Event.program? : Event → Option String
  | .answered .command (.line line) => (Command.parse line).program?
  | _ => none

/-- The programs that events have the session record, in order. -/
def recorded (events : List Event) : List String := events.filterMap Event.program?

/-- Ambient events record nothing. -/
theorem Event.program?_of_isAmbient {event : Event} (h : event.isAmbient = true) :
    event.program? = none := by
  cases event <;> first | rfl | simp [Event.isAmbient] at h

@[simp] theorem recorded_nil : recorded [] = [] := rfl

@[simp] theorem recorded_append (xs ys : List Event) :
    recorded (xs ++ ys) = recorded xs ++ recorded ys := List.filterMap_append

/-- Events that record nothing one by one record nothing together. -/
theorem recorded_eq_nil {events : List Event} (h : ∀ event ∈ events, event.program? = none) :
    recorded events = [] :=
  List.filterMap_eq_nil_iff.2 h

/-- The programs that have been read but not yet added to the history. -/
def Stage.due : Stage → List String
  | .heard (.line line) => (Command.parse line).program?.toList
  | _ => []

@[simp] theorem Stage.due_resumed (waited : Bool) : (Stage.resumed waited).due = [] := by
  cases waited <;> rfl

/-- Every look shows the newest of what was loaded and has been recorded by then. -/
def Shows (capacity : Nat) (loaded : List String) : List Event → Event → Prop :=
  fun before event => ∀ view, event.view? = some view →
    view.history = newest capacity (loaded ++ recorded before)

namespace Session

variable {H : Type}

/-- The history at a stage, after some events, is the newest of what was loaded and recorded, but
for what is still due. -/
structure Recounts (capacity : Nat) (loaded : List String) (stage : Stage) (s : Session H)
    (events : List Event) : Prop where
  /-- The room for entries stays as it was. -/
  room : s.history.capacity = capacity
  /-- Every look so far has shown what it should. -/
  shown : Throughout (Shows capacity loaded) events
  /-- The history lacks only what is due. -/
  held : newest capacity (s.history.entries ++ stage.due) =
    newest capacity (loaded ++ recorded events)

/-- When nothing is due the history holds all that it should. -/
theorem Recounts.entries {capacity : Nat} {loaded : List String} {stage : Stage} {s : Session H}
    {events : List Event} (h : s.Recounts capacity loaded stage events) (hdue : stage.due = []) :
    s.history.entries = newest capacity (loaded ++ recorded events) := by
  have hheld := h.held
  rw [hdue, List.append_nil, ← h.room, History.newest_entries, h.room] at hheld
  exact hheld

/-- A step that starts with nothing due, shows the history at most at once and has nothing recorded
but what it adds or leaves due keeps the account. -/
theorem Recounts.step {capacity : Nat} {loaded : List String} {a b : Stage} {s t : Session H}
    {events new : List Event} (h : s.Recounts capacity loaded a events) (hdue : a.due = [])
    (hroom : t.history.capacity = s.history.capacity)
    (hviews : Throughout (fun before event => ∀ view, event.view? = some view →
      before = [] ∧ view.history = s.history.entries) new)
    (hheld : t.history.entries ++ b.due = s.history.entries ++ recorded new) :
    t.Recounts capacity loaded b (events ++ new) where
  room := hroom.trans h.room
  shown := by
    refine throughout_append.2 ⟨h.shown, ?_⟩
    intro before event after he view hv
    obtain ⟨rfl, hshow⟩ := hviews before event after he view hv
    rw [hshow, h.entries hdue, List.append_nil]
  held := by
    rw [hheld, h.entries hdue, newest_newest_append, recorded_append, List.append_assoc]

/-- A step that nobody sees the history in and that records nothing keeps the account. -/
theorem Recounts.quiet {capacity : Nat} {loaded : List String} {a b : Stage} {s t : Session H}
    {events new : List Event} (h : s.Recounts capacity loaded a events) (hdue : a.due = [])
    (hb : b.due = []) (hhistory : t.history = s.history)
    (hnew : ∀ event ∈ new, event.view? = none ∧ event.program? = none) :
    t.Recounts capacity loaded b (events ++ new) := by
  refine h.step hdue (by rw [hhistory]) ?_ ?_
  · refine throughout_of_forall fun event he before view hv => ?_
    rw [(hnew event he).1] at hv
    cases hv
  · rw [hhistory, hb, recorded_eq_nil fun event he => (hnew event he).2]

/-- Ambient events show nothing and record nothing. -/
theorem quiet_of_ambient {events : List Event}
    (h : ∀ event ∈ events, event.isAmbient = true) :
    ∀ event ∈ events, event.view? = none ∧ event.program? = none :=
  fun event he => ⟨Event.view?_of_isAmbient (h event he), Event.program?_of_isAmbient (h event he)⟩

/-- Events framed by a look at the session and by an event that shows nothing show the session only
at once. -/
theorem throughout_framed {φ : View → Prop} {first last : Event} {ambient : List Event}
    (hfirst : ∀ view, first.view? = some view → φ view)
    (hambient : ∀ event ∈ ambient, event.isAmbient = true) (hlast : last.view? = none) :
    Throughout (fun before event => ∀ view, event.view? = some view → before = [] ∧ φ view)
      (first :: ambient ++ [last]) := by
  rw [List.cons_append, throughout_cons]
  refine ⟨fun view hv => ⟨rfl, hfirst view hv⟩, throughout_of_forall ?_⟩
  intro event he before view hv
  have hnone : event.view? = none := by
    rcases List.mem_append.1 he with ha | hl
    · exact Event.view?_of_isAmbient (hambient event ha)
    · rw [List.mem_singleton.1 hl, hlast]
  rw [hnone] at hv
  cases hv

/-- Nothing is recorded between the two events of a frame. -/
theorem recorded_framed {first last : Event} {ambient : List Event}
    (hfirst : first.program? = none) (hambient : ∀ event ∈ ambient, event.isAmbient = true) :
    recorded (first :: ambient ++ [last]) = last.program?.toList := by
  have h := recorded_eq_nil fun event he => Event.program?_of_isAmbient (hambient event he)
  rw [List.cons_append, ← List.singleton_append, recorded_append, recorded_append, h]
  cases hl : last.program? <;> simp [recorded, hfirst, hl]

variable [Host H] [Host.Discreet H]

/-- An answer to the offer is not recorded. -/
theorem Recounts.ask_offer {capacity : Nat} {loaded : List String} {a b : Stage} {s : Session H}
    {events : List Event} (h : s.Recounts capacity loaded a events) (hdue : a.due = [])
    (hb : b.due = []) :
    ∃ new, (s.ask .offer).2.console.log = s.console.log ++ new ∧
      (s.ask .offer).2.Recounts capacity loaded b (events ++ new) := by
  obtain ⟨ambient, hambient, hlog⟩ := s.log_ask .offer
  refine ⟨_, hlog, h.step hdue rfl (throughout_framed ?_ hambient rfl) ?_⟩
  · rintro view ⟨⟩
    rfl
  · rw [recorded_framed rfl hambient, hb, history_ask]
    rfl

/-- A launch shows the history and records nothing. -/
theorem Recounts.launch {capacity : Nat} {loaded : List String} {a b : Stage} {s : Session H}
    {events : List Event} (h : s.Recounts capacity loaded a events) (hdue : a.due = [])
    (hb : b.due = []) (prompt : Prompt) (command : Command) :
    ∃ new, (s.launch prompt command).2.console.log = s.console.log ++ new ∧
      (s.launch prompt command).2.Recounts capacity loaded b (events ++ new) := by
  obtain ⟨ambient, hambient, hlog⟩ := s.log_launch prompt command
  refine ⟨_, hlog, h.step hdue rfl (throughout_framed ?_ hambient rfl) ?_⟩
  · rintro view ⟨⟩
    rfl
  · rw [recorded_framed rfl hambient, hb, history_launch]
    rfl

/-- Each step keeps the account of the history. -/
theorem Step.recounts {capacity : Nat} {loaded : List String} {a b : Stage} {s t : Session H}
    {events : List Event} (hs : Step a s b t) (h : s.Recounts capacity loaded a events) :
    ∃ new, t.console.log = s.console.log ++ new ∧
      t.Recounts capacity loaded b (events ++ new) := by
  cases hs with
  | idle => exact ⟨[], by simp, h.quiet rfl rfl rfl (by simp)⟩
  | notice => exact ⟨[], by simp, h.quiet rfl rfl rfl (by simp)⟩
  | @list waited =>
    obtain ⟨new, hc, hlog⟩ := s.calm_list
    refine ⟨_, hlog, h.quiet rfl rfl (history_sayAll _ _) ?_⟩
    intro event he
    rcases List.mem_cons.1 he with rfl | he
    · exact ⟨rfl, rfl⟩
    · exact quiet_of_ambient hc.ambient event he
  | answer => exact h.ask_offer rfl rfl
  | @silence waited => exact h.ask_offer rfl (Stage.due_resumed waited)
  | @decline waited => exact ⟨[], by simp, h.quiet rfl (Stage.due_resumed waited) rfl (by simp)⟩
  | @nothing waited =>
    obtain ⟨new, hc, -⟩ := s.calm_say Recall.nothingToRepeat
    exact ⟨new, hc.log, h.quiet rfl (Stage.due_resumed waited) rfl (quiet_of_ambient hc.ambient)⟩
  | @accept waited _ answer entry =>
    obtain ⟨new, hc, -⟩ := s.calm_say (Recall.announcement entry)
    exact ⟨new, hc.log, h.quiet rfl rfl rfl (quiet_of_ambient hc.ambient)⟩
  | @again waited => exact h.launch rfl (Stage.due_resumed waited) _ _
  | @againFailed waited _ entry e =>
    obtain ⟨new, hlog, h'⟩ := h.launch rfl (Stage.due_resumed waited) .offer
      (Command.ofEntry entry)
    obtain ⟨said, hc⟩ := (s.launch .offer (Command.ofEntry entry)).2.calm_warn_say
      (Recall.failureWarning entry e) (Recall.failureLine e)
    refine ⟨new ++ said, ?_, ?_⟩
    · rw [hc.log, hlog, List.append_assoc]
    · rw [← List.append_assoc]
      exact h'.quiet (Stage.due_resumed waited) (Stage.due_resumed waited) rfl
        (quiet_of_ambient hc.ambient)
  | hear =>
    obtain ⟨ambient, hambient, hlog⟩ := s.log_ask .command
    refine ⟨_, hlog, h.step rfl rfl (throughout_framed ?_ hambient rfl) ?_⟩
    · rintro view ⟨⟩
      rfl
    · rw [recorded_framed rfl hambient, history_ask]
      cases (s.ask .command).1 <;> rfl
  | @blank _ line hp => exact ⟨[], by simp, h.quiet (by simp [Stage.due, hp]) rfl rfl (by simp)⟩
  | @remember _ line program hp =>
    refine ⟨[], by simp [Session.remember], h.room, by simpa using h.shown, ?_⟩
    have hheld := h.held
    simp only [Stage.due, hp, Option.toList_some] at hheld
    simp only [Session.remember, History.entries_append, h.room, Stage.due, List.append_nil]
    rw [newest_newest, hheld]
  | cut => exact ⟨[], by simp, h.quiet rfl rfl rfl (by simp)⟩
  | finish =>
    obtain ⟨new, hc, -⟩ := s.console.calm_flush
    exact ⟨new, hc.log, h.quiet rfl rfl rfl (quiet_of_ambient hc.ambient)⟩
  | fail => exact ⟨[], by simp, h.quiet rfl rfl rfl (by simp)⟩
  | keep =>
    rcases s.log_keep with hlog | ⟨e, hlog⟩
    · exact ⟨_, hlog, h.quiet rfl rfl s.history_keep (by simp [Event.view?, Event.program?])⟩
    · exact ⟨_, hlog, h.quiet rfl rfl s.history_keep (by simp [Event.view?, Event.program?])⟩
  | launched => exact h.launch (b := .polling) rfl rfl _ _
  | @complain _ program command e =>
    obtain ⟨new, hlog, h'⟩ := h.launch (b := .polling) rfl rfl .command command
    refine ⟨new ++ [.complained (launchComplaint program e)], ?_, ?_⟩
    · rw [Session.complain, Console.complain, Console.record, hlog, List.append_assoc]
    · rw [← List.append_assoc]
      exact h'.quiet rfl rfl rfl (by simp [Event.view?, Event.program?])
  | @fatal _ _ _ e => exact h.launch (b := .over (.error e)) rfl rfl _ _

/-- From wherever a path starts, the log only grows along it, and the history is accounted for. -/
theorem Path.recounts_from {a b : Stage} {s t : Session H} (h : Path a s b t) :
    t.console.log = s.console.log ++ s.since t ∧
      t.Recounts s.history.capacity (s.history.entries ++ a.due) b (s.since t) := by
  refine h.invariant ⟨rfl, throughout_nil _, ?_⟩ Step.recounts
  rw [recorded_nil, List.append_nil]

/-- At every stage of its course a session's log has only grown and its history is accounted for. -/
theorem Path.recounts {stage : Stage} {s t : Session H} (h : Path .polling s stage t) :
    t.console.log = s.console.log ++ s.since t ∧
      t.Recounts s.history.capacity s.history.entries stage (s.since t) := by
  have hfrom := h.recounts_from
  rwa [show Stage.polling.due = [] from rfl, List.append_nil] at hfrom

/-- The log only grows along a path. -/
theorem Path.log {a b : Stage} {s t : Session H} (h : Path a s b t) :
    t.console.log = s.console.log ++ s.since t :=
  h.recounts_from.1

/-- Where nothing is due at its ends, a path adds to the history what is recorded along it. -/
theorem Path.entries_eq {a b : Stage} {s t : Session H} (h : Path a s b t) (ha : a.due = [])
    (hb : b.due = []) :
    t.history.entries = newest s.history.capacity (s.history.entries ++ recorded (s.since t)) := by
  have hentries := h.recounts_from.2.entries hb
  rwa [ha, List.append_nil] at hentries

/-- What has happened along two paths is what has happened along the first and then along the
second. -/
theorem Path.since_append {a b c : Stage} {s t u : Session H} (h : Path a s b t)
    (h' : Path b t c u) : s.since u = s.since t ++ t.since u :=
  since_eq (by rw [h'.log, h.log, List.append_assoc])

/-- What has happened by some stage comes first in what happens in the whole run. -/
theorem Path.events_eq {stage : Stage} {s t : Session H} (h : Path .polling s stage t) :
    s.events = s.since t ++ t.since s.run.2 :=
  h.since_append h.to_end

end Session

/-- A history from a file has the usual room. -/
@[simp] theorem History.capacity_load (disk : Disk) (path : Text.Bytes) :
    (load disk path).1.capacity = defaultCapacity := by
  unfold load
  split
  · exact capacity_appendAll _ _
  · exact capacity_appendAll _ _

namespace Session

variable {H : Type} [Host H] [Host.Discreet H]

/-- Whatever the file held, the host brings and the output takes: every look at the history, and
its end, show the newest of what was loaded and of the programs recorded by then. -/
theorem history_eq_newest_recorded (settings : Settings) (host : H) (console : Console) :
    let s := start settings host console
    let loaded := (History.load console.disk settings.historyPath).1.entries
    s.run.2.console.log = s.console.log ++ s.events ∧
      Throughout (Shows History.defaultCapacity loaded) s.events ∧
      s.run.2.history.entries =
        newest History.defaultCapacity (loaded ++ recorded s.events) := by
  intro s loaded
  obtain ⟨hlog, h⟩ := s.path_run.recounts
  rw [show s.history.capacity = History.defaultCapacity from History.capacity_load _ _] at h
  exact ⟨hlog, h.shown, h.entries rfl⟩

/-- A session with a scripted host, on a disk that holds nothing. -/
def ofScript (reads : List ScriptedRead) (launches : List ScriptedLaunch) : Session Script :=
  start (Settings.withHistoryPath (encode "h")) ⟨reads, launches⟩
    (Console.fresh Disk.bare Sink.unbounded)

/-- An interrupt's answer, a blank line, a repeat that fails and a launch that ends the session
leave the two programs that lines have asked for. -/
theorem history_eq_newest_recorded_of_interrupted :
    let s := ofScript
      [⟨.line "ls -l &", true⟩, ⟨.line "r", false⟩, ⟨.line " & ", false⟩, ⟨.line "pwd", false⟩]
      [⟨.asAsked 0, false⟩, ⟨.fails (.fork .tryAgain), false⟩, ⟨.fails (.wait .noChild), true⟩]
    recorded s.events = ["ls", "pwd"] ∧
      s.run.2.history.entries = newest History.defaultCapacity ([] ++ ["ls", "pwd"]) := by
  intro s
  have hrecorded : recorded s.events = ["ls", "pwd"] := by decide +kernel
  have hloaded : (History.load Disk.bare (encode "h")).1.entries = [] := by decide +kernel
  have h := (history_eq_newest_recorded (Settings.withHistoryPath (encode "h"))
    s.host (Console.fresh Disk.bare Sink.unbounded)).2.2
  refine ⟨hrecorded, ?_⟩
  rw [← hrecorded, ← hloaded]
  exact h

end Session

end RecallShell
