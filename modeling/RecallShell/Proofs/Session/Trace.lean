import RecallShell.Proofs.Host.Conduct
import RecallShell.Session.Loop

/-!
# What joins the log

The log only grows, so what happens from one moment of a session to a later one is a list of events.
For each thing that a session does, this list has a known shape: a read or a launch is framed by two
events of the session, with ambient events in between, and output leaves no trace but ambient
events.
-/

namespace RecallShell

open Text Recall

/-- Every event of a sequence is as it should be, given the events before it. -/
def Throughout (φ : List Event → Event → Prop) (events : List Event) : Prop :=
  ∀ before event after, events = before ++ event :: after → φ before event

theorem throughout_nil (φ : List Event → Event → Prop) : Throughout φ [] := by
  intro before event after h
  simp at h

/-- An event comes first or follows the first one. -/
theorem throughout_cons {φ : List Event → Event → Prop} {event : Event} {events : List Event} :
    Throughout φ (event :: events) ↔
      φ [] event ∧ Throughout (fun before => φ (event :: before)) events := by
  constructor
  · intro h
    refine ⟨h [] event events rfl, ?_⟩
    intro before e after he
    exact h (event :: before) e after (by rw [he, List.cons_append])
  · rintro ⟨hfirst, hrest⟩ before e after he
    cases before with
    | nil =>
      obtain ⟨rfl, -⟩ := List.cons.inj he
      exact hfirst
    | cons first before =>
      obtain ⟨rfl, ht⟩ := List.cons.inj he
      exact hrest before e after ht

/-- What holds throughout two sequences one after the other holds throughout each of them. -/
theorem throughout_append {φ : List Event → Event → Prop} {xs ys : List Event} :
    Throughout φ (xs ++ ys) ↔
      Throughout φ xs ∧ Throughout (fun before => φ (xs ++ before)) ys := by
  induction xs generalizing φ with
  | nil => simp [throughout_nil]
  | cons x xs ih =>
    rw [List.cons_append, throughout_cons, throughout_cons, ih, and_assoc]
    rfl

/-- What holds of each event by itself holds throughout. -/
theorem throughout_of_forall {φ : List Event → Event → Prop} {events : List Event}
    (h : ∀ event ∈ events, ∀ before, φ before event) : Throughout φ events := by
  intro before event after he
  exact h event (by simp [he]) before

/-- The view of the session that an event carries. -/
def Event.view? : Event → Option View
  | .asked _ view => some view
  | .launching _ _ view => some view
  | _ => none

/-- Ambient events carry no view. -/
theorem Event.view?_of_isAmbient {event : Event} (h : event.isAmbient = true) :
    event.view? = none := by
  cases event <;> first | rfl | simp [Event.isAmbient] at h

/-- Between `c` and `d` two events of the session frame a lapse in which only signals set the flag
of interrupts. -/
structure Console.Framed (c d : Console) (first last : Event) (ambient : List Event) : Prop where
  /-- The frame and the lapse stand behind what the log held before. -/
  log : d.log = c.log ++ (first :: ambient ++ [last])
  /-- The events in the frame are no events of the session itself. -/
  framed : ∀ event ∈ ambient, event.isAmbient = true
  /-- A signal in the frame sets the flag. -/
  pending : d.pending = (c.pending || ambient.any Event.isSignal)

namespace Session

variable {H : Type}

/-- What has happened from one moment of a session to a later one. -/
def since (s t : Session H) : List Event := t.console.log.drop s.console.log.length

/-- What a longer log has in front is what has happened since. -/
theorem since_eq {s t : Session H} {events : List Event}
    (h : t.console.log = s.console.log ++ events) : s.since t = events := by
  rw [since, h, List.drop_left]

/-- Nothing has happened since. -/
@[simp] theorem since_self (s : Session H) : s.since s = [] := since_eq (List.append_nil _).symm

/-- What happens in the run of a session. -/
def events [Host H] (s : Session H) : List Event := s.since s.run.2

/-- Beginning a session does not touch the flag. -/
theorem pending_start (settings : Settings) (host : H) (console : Console) :
    (start settings host console).console.pending = console.pending := by
  simp only [start]
  split <;> rfl

/-- Beginning a session does not touch the disk. -/
theorem disk_start (settings : Settings) (host : H) (console : Console) :
    (start settings host console).console.disk = console.disk := by
  simp only [start]
  split <;> rfl

/-- Beginning a session leaves the output alone. -/
theorem out_start (settings : Settings) (host : H) (console : Console) :
    (start settings host console).console.out = console.out := by
  simp only [start]
  split <;> rfl

/-- Beginning a session leaves the host alone. -/
theorem host_start (settings : Settings) (host : H) (console : Console) :
    (start settings host console).host = host := rfl

/-- Saying a line is calm and brings no signal. -/
theorem calm_say (s : Session H) (line : String) :
    ∃ events, s.console.Calm (s.say line).console events ∧ events.any Event.isSignal = false :=
  s.console.calm_emit (Sink.lineBytes line)

/-- Saying lines is calm and brings no signal. -/
theorem calm_sayAll (s : Session H) (lines : List String) :
    ∃ events, s.console.Calm (s.sayAll lines).console events ∧
      events.any Event.isSignal = false := by
  induction lines generalizing s with
  | nil => exact ⟨[], Console.Calm.refl _, rfl⟩
  | cons line lines ih =>
    obtain ⟨xs, hx, hxs⟩ := s.calm_say line
    obtain ⟨ys, hy, hys⟩ := ih (s.say line)
    exact ⟨xs ++ ys, hx.trans hy, by simp [List.any_append, hxs, hys]⟩

/-- Warning of something and saying it is calm. -/
theorem calm_warn_say (s : Session H) (text line : String) :
    ∃ events, s.console.Calm ((s.warn text).say line).console events := by
  obtain ⟨said, hsaid, -⟩ := (s.warn text).calm_say line
  exact ⟨_, (s.console.calm_warn text).trans hsaid⟩

/-- Saying lines changes nothing but the surroundings. -/
@[simp] theorem history_sayAll (s : Session H) (lines : List String) :
    (s.sayAll lines).history = s.history := by
  induction lines generalizing s with
  | nil => rfl
  | cons line lines ih => exact ih (s.say line)

@[simp] theorem path_sayAll (s : Session H) (lines : List String) :
    (s.sayAll lines).path = s.path := by
  induction lines generalizing s with
  | nil => rfl
  | cons line lines ih => exact ih (s.say line)

@[simp] theorem host_sayAll (s : Session H) (lines : List String) :
    (s.sayAll lines).host = s.host := by
  induction lines generalizing s with
  | nil => rfl
  | cons line lines ih => exact ih (s.say line)

/-- A read is framed by its question and its answer. -/
theorem log_ask [Host H] [Host.Discreet H] (s : Session H) (prompt : Prompt) :
    ∃ ambient, (∀ event ∈ ambient, event.isAmbient = true) ∧
      (s.ask prompt).2.console.log = s.console.log ++
        (.asked prompt s.view :: ambient ++ [.answered prompt (s.ask prompt).1]) := by
  obtain ⟨ambient, h⟩ := Host.Discreet.lapse_readLine prompt s.host
    (s.console.record (.asked prompt s.view))
  refine ⟨ambient, h.ambient, ?_⟩
  have hlog : (s.ask prompt).2.console.log =
      (Host.readLine prompt s.host (s.console.record (.asked prompt s.view))).2.2.log ++
        [.answered prompt (s.ask prompt).1] := rfl
  rw [hlog, h.log]
  simp [Console.record]

/-- A launch is framed by its command and its result. -/
theorem log_launch [Host H] [Host.Discreet H] (s : Session H) (prompt : Prompt)
    (command : Command) :
    ∃ ambient, (∀ event ∈ ambient, event.isAmbient = true) ∧
      (s.launch prompt command).2.console.log = s.console.log ++
        (.launching prompt command s.view ::
          ambient ++ [.launched prompt command (s.launch prompt command).1]) := by
  obtain ⟨ambient, h⟩ := Host.Discreet.lapse_launch command s.host
    (s.console.record (.launching prompt command s.view))
  refine ⟨ambient, h.ambient, ?_⟩
  have hlog : (s.launch prompt command).2.console.log =
      (Host.launch command s.host
        (s.console.record (.launching prompt command s.view))).2.2.log ++
        [.launched prompt command (s.launch prompt command).1] := rfl
  rw [hlog, h.log]
  simp [Console.record]

/-- A read from a heedful host is a lapse in a frame. -/
theorem framed_ask [Host H] [Host.Heedful H] (s : Session H) (prompt : Prompt) :
    ∃ ambient, s.console.Framed (s.ask prompt).2.console (.asked prompt s.view)
      (.answered prompt (s.ask prompt).1) ambient := by
  obtain ⟨ambient, h⟩ := Host.Heedful.flagged_readLine prompt s.host
    (s.console.record (.asked prompt s.view))
  have hlog : (s.ask prompt).2.console.log =
      (Host.readLine prompt s.host (s.console.record (.asked prompt s.view))).2.2.log ++
        [.answered prompt (s.ask prompt).1] := rfl
  refine ⟨ambient, ?_, h.ambient, h.pending⟩
  rw [hlog, h.log]
  simp [Console.record]

/-- A launch on a heedful host is a lapse in a frame. -/
theorem framed_launch [Host H] [Host.Heedful H] (s : Session H) (prompt : Prompt)
    (command : Command) :
    ∃ ambient, s.console.Framed (s.launch prompt command).2.console
      (.launching prompt command s.view)
      (.launched prompt command (s.launch prompt command).1) ambient := by
  obtain ⟨ambient, h⟩ := Host.Heedful.flagged_launch command s.host
    (s.console.record (.launching prompt command s.view))
  have hlog : (s.launch prompt command).2.console.log =
      (Host.launch command s.host
        (s.console.record (.launching prompt command s.view))).2.2.log ++
        [.launched prompt command (s.launch prompt command).1] := rfl
  refine ⟨ambient, ?_, h.ambient, h.pending⟩
  rw [hlog, h.log]
  simp [Console.record]

/-- A read from an aloof host leaves the disk as it is. -/
theorem disk_ask [Host H] [Host.Aloof H] (s : Session H) (prompt : Prompt) :
    (s.ask prompt).2.console.disk = s.console.disk := by
  obtain ⟨events, h⟩ := Host.Aloof.calm_readLine prompt s.host
    (s.console.record (.asked prompt s.view))
  exact h.disk

/-- A launch on an aloof host leaves the disk as it is. -/
theorem disk_launch [Host H] [Host.Aloof H] (s : Session H) (prompt : Prompt)
    (command : Command) : (s.launch prompt command).2.console.disk = s.console.disk := by
  obtain ⟨events, h⟩ := Host.Aloof.calm_launch command s.host
    (s.console.record (.launching prompt command s.view))
  exact h.disk

@[simp] theorem history_ask [Host H] (s : Session H) (prompt : Prompt) :
    (s.ask prompt).2.history = s.history := rfl

@[simp] theorem history_launch [Host H] (s : Session H) (prompt : Prompt) (command : Command) :
    (s.launch prompt command).2.history = s.history := rfl

/-- The session with another disk around it. -/
def onDisk (s : Session H) (disk : Disk) : Session H :=
  { s with console := { s.console with disk := disk } }

/-- A history that could be written is noted as saved. -/
theorem keep_of_ok {s : Session H} {disk : Disk}
    (h : s.history.save s.path s.console.disk = (.ok (), disk)) :
    s.keep = (s.onDisk disk).record (.saved none) := by
  simp only [keep, save, h, onDisk]

/-- A history that could not be written is noted as such, with a warning and a complaint. -/
theorem keep_of_error {s : Session H} {e : ShellError} {disk : Disk}
    (h : s.history.save s.path s.console.disk = (.error e, disk)) :
    s.keep = (((s.onDisk disk).record (.saved (some e))).warn e.message).complain
      (saveComplaint e) := by
  simp only [keep, save, h, onDisk]

/-- A history that could not be written leaves the attempt, a warning and a complaint in the log. -/
theorem log_keep_of_error {s : Session H} {e : ShellError} {disk : Disk}
    (h : s.history.save s.path s.console.disk = (.error e, disk)) :
    s.keep.console.log = s.console.log ++
      [.saved (some e), .warned e.message, .complained (saveComplaint e)] := by
  rw [keep_of_error h]
  simp [onDisk, record, warn, complain, Console.record, Console.warn, Console.complain]

/-- Writing the history to its file leaves one event, and a complaint behind it where it fails. -/
theorem log_keep (s : Session H) : s.keep.console.log = s.console.log ++ [.saved none] ∨
    ∃ e, s.keep.console.log = s.console.log ++
      [.saved (some e), .warned e.message, .complained (saveComplaint e)] := by
  rcases h : s.history.save s.path s.console.disk with ⟨_ | e, disk⟩
  · rename_i e
    exact Or.inr ⟨e, log_keep_of_error h⟩
  · rw [keep_of_ok h]
    exact Or.inl rfl

/-- Writing the history to its file changes nothing but the disk, the diagnostics and the log. -/
theorem exists_keep_eq (s : Session H) : ∃ disk diagnostics log, s.keep = { s with
    console := { s.console with disk := disk, diagnostics := diagnostics, log := log } } := by
  rcases h : s.history.save s.path s.console.disk with ⟨_ | e, disk⟩
  · exact ⟨disk, _, _, keep_of_error h⟩
  · exact ⟨disk, _, _, keep_of_ok h⟩

/-- Writing the history to its file keeps it in memory. -/
@[simp] theorem history_keep (s : Session H) : s.keep.history = s.history := by
  obtain ⟨_, _, _, h⟩ := s.exists_keep_eq
  rw [h]

/-- Writing the history to its file leaves the flag of interrupts as it is. -/
@[simp] theorem pending_keep (s : Session H) :
    s.keep.console.pending = s.console.pending := by
  obtain ⟨_, _, _, h⟩ := s.exists_keep_eq
  rw [h]

/-- Writing the history to its file leaves the file where it is. -/
@[simp] theorem path_keep (s : Session H) : s.keep.path = s.path := by
  obtain ⟨_, _, _, h⟩ := s.exists_keep_eq
  rw [h]

/-- Writing the history to its file leaves the host alone. -/
@[simp] theorem host_keep (s : Session H) : s.keep.host = s.host := by
  obtain ⟨_, _, _, h⟩ := s.exists_keep_eq
  rw [h]

/-- Writing the history to its file leaves the output alone. -/
@[simp] theorem out_keep (s : Session H) : s.keep.console.out = s.console.out := by
  obtain ⟨_, _, _, h⟩ := s.exists_keep_eq
  rw [h]

end Session

end RecallShell
