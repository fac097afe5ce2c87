import RecallShell.Host.Piped

/-!
# The conduct of hosts

While a host reads or launches, events of the surroundings may join the log: output is sent, a
warning is recorded, an interrupt signal arrives. A discreet host adds no other events. A heedful
host moreover sets the flag of interrupts exactly when it logs a signal, and an aloof one also
leaves the disk and the diagnostics alone. Scripted and piped hosts are aloof.
-/

namespace RecallShell

open Text

/-- Whether the surroundings bring an event about by themselves. -/
def Event.isAmbient : Event → Bool
  | .sent _ | .warned _ | .signaled => true
  | _ => false

/-- Whether an event is the arrival of an interrupt signal. -/
def Event.isSignal : Event → Bool
  | .signaled => true
  | _ => false

namespace Console

/-- Between `c` and `d` the log grows by some ambient events. -/
structure Lapse (c d : Console) (events : List Event) : Prop where
  /-- The events stand behind what the log held before. -/
  log : d.log = c.log ++ events
  /-- None of them is an event of the session itself. -/
  ambient : ∀ event ∈ events, event.isAmbient = true

/-- Between `c` and `d` the flag of interrupts is set exactly by the signals in the log. -/
structure Flagged (c d : Console) (events : List Event) : Prop extends Lapse c d events where
  /-- A signal sets the flag, and nothing clears it. -/
  pending : d.pending = (c.pending || events.any Event.isSignal)

/-- Between `c` and `d` neither the disk nor the diagnostics change, and the flag of interrupts only
by signals. -/
structure Calm (c d : Console) (events : List Event) : Prop extends Flagged c d events where
  /-- The disk stays as it is. -/
  disk : d.disk = c.disk
  /-- No diagnostic is written. -/
  diagnostics : d.diagnostics = c.diagnostics

/-- One lapse after another is a lapse. -/
theorem Lapse.trans {c d e : Console} {xs ys : List Event} (h : c.Lapse d xs)
    (h' : d.Lapse e ys) : c.Lapse e (xs ++ ys) where
  log := by rw [h'.log, h.log, List.append_assoc]
  ambient := by
    intro event he
    rcases List.mem_append.1 he with hx | hy
    · exact h.ambient event hx
    · exact h'.ambient event hy

/-- Nothing may happen at all. -/
theorem Calm.refl (c : Console) : c.Calm c [] where
  log := by simp
  ambient := by simp
  pending := by simp
  disk := rfl
  diagnostics := rfl

/-- One calm lapse after another is calm. -/
theorem Calm.trans {c d e : Console} {xs ys : List Event} (h : c.Calm d xs)
    (h' : d.Calm e ys) : c.Calm e (xs ++ ys) where
  toLapse := h.toLapse.trans h'.toLapse
  pending := by rw [h'.pending, h.pending, List.any_append, Bool.or_assoc]
  disk := h'.disk.trans h.disk
  diagnostics := h'.diagnostics.trans h.diagnostics

@[simp] theorem out_emit (c : Console) (bs : Bytes) : (c.emit bs).2.out = (c.out.emit bs).2.2 := by
  simp only [emit, recordSent]
  split <;> rfl

@[simp] theorem out_flush (c : Console) : c.flush.out = c.out.flush.2 := by
  unfold flush
  rcases c.out.flush with ⟨_ | sent, out⟩
  · rfl
  · simp only [recordSent]
    split <;> rfl

/-- Logging that output was sent is calm. -/
theorem calm_recordSent (c : Console) (data : Bytes) :
    ∃ events, c.Calm (c.recordSent data) events ∧ events.any Event.isSignal = false := by
  unfold recordSent
  split
  · exact ⟨[], Calm.refl c, rfl⟩
  · exact ⟨[.sent data], ⟨⟨⟨rfl, by simp [Event.isAmbient]⟩, by simp [record, Event.isSignal]⟩,
      rfl, rfl⟩, rfl⟩

/-- Writing to the output is calm and brings no signal, whatever becomes of it. -/
theorem calm_emit (c : Console) (bs : Bytes) :
    ∃ events, c.Calm (c.emit bs).2 events ∧ events.any Event.isSignal = false := by
  obtain ⟨events, h, hs⟩ :=
    calm_recordSent { c with out := (c.out.emit bs).2.2 } (c.out.emit bs).2.1
  exact ⟨events, ⟨⟨⟨h.log, h.ambient⟩, h.pending⟩, h.disk, h.diagnostics⟩, hs⟩

/-- The last flush of the output is calm and brings no signal. -/
theorem calm_flush (c : Console) :
    ∃ events, c.Calm c.flush events ∧ events.any Event.isSignal = false := by
  unfold flush
  split
  · rename_i sent out _
    obtain ⟨events, h, hs⟩ := calm_recordSent { c with out := out } sent
    exact ⟨events, ⟨⟨⟨h.log, h.ambient⟩, h.pending⟩, h.disk, h.diagnostics⟩, hs⟩
  · exact ⟨[], ⟨⟨⟨by simp, by simp⟩, by simp⟩, rfl, rfl⟩, rfl⟩

/-- Recording a warning is calm. -/
theorem calm_warn (c : Console) (text : String) : c.Calm (c.warn text) [.warned text] where
  log := rfl
  ambient := by simp [Event.isAmbient]
  pending := by simp [warn, record, Event.isSignal]
  disk := rfl
  diagnostics := rfl

/-- A signal may arrive in a calm lapse. -/
theorem calm_signalIf (c : Console) (arrives : Bool) :
    c.Calm (c.signalIf arrives) (if arrives then [.signaled] else []) := by
  cases arrives with
  | false => exact Calm.refl c
  | true =>
    refine ⟨⟨⟨rfl, by simp [Event.isAmbient]⟩, ?_⟩, rfl, rfl⟩
    simp [signalIf, signal, record, Event.isSignal]

/-- A prompt is written; where that fails a warning follows. -/
theorem promptFor_cases (c : Console) (prompt : String) :
    c.promptFor prompt = (c.emit (encode prompt)).2 ∨
      ∃ text, c.promptFor prompt = (c.emit (encode prompt)).2.warn text := by
  unfold promptFor emitPrompt
  split
  · rename_i he
    exact Or.inl (by rw [he])
  · rename_i he
    exact Or.inr ⟨_, by rw [he]⟩

/-- Prompting is calm and brings no signal, even where the prompt cannot be written. -/
theorem calm_promptFor (c : Console) (prompt : String) :
    ∃ events, c.Calm (c.promptFor prompt) events ∧ events.any Event.isSignal = false := by
  obtain ⟨events, h, hquiet⟩ := c.calm_emit (encode prompt)
  rcases c.promptFor_cases prompt with hwritten | ⟨text, hwarned⟩
  · rw [hwritten]
    exact ⟨events, h, hquiet⟩
  · rw [hwarned]
    exact ⟨_, h.trans (calm_warn _ text), by simp [List.any_append, hquiet, Event.isSignal]⟩

/-- A prompt is offered to the output. -/
@[simp] theorem out_promptFor (c : Console) (prompt : String) :
    (c.promptFor prompt).out = (c.out.emit (encode prompt)).2.2 := by
  rcases c.promptFor_cases prompt with hwritten | ⟨text, hwarned⟩
  · rw [hwritten, out_emit]
  · rw [hwarned]
    exact c.out_emit (encode prompt)

@[simp] theorem out_signalIf (c : Console) (arrives : Bool) : (c.signalIf arrives).out = c.out := by
  cases arrives <;> rfl

/-- A scripted launch writes nothing. -/
theorem out_launchScripted (command : Command) (launches : List ScriptedLaunch) (c : Console) :
    (launchScripted command launches c).2.2.out = c.out := by
  cases launches with
  | nil => rfl
  | cons item rest => exact c.out_signalIf item.signal

/-- A scripted launch is calm. -/
theorem calm_launchScripted (command : Command) (launches : List ScriptedLaunch) (c : Console) :
    ∃ events, c.Calm (launchScripted command launches c).2.2 events := by
  cases launches with
  | nil => exact ⟨[], Calm.refl c⟩
  | cons item rest => exact ⟨_, c.calm_signalIf item.signal⟩

end Console

namespace Host

/-- A host that adds nothing but ambient events to the log. -/
class Discreet (H : Type) [Host H] : Prop where
  /-- Reading adds only ambient events. -/
  lapse_readLine : ∀ (prompt : Prompt) (host : H) (c : Console),
    ∃ events, c.Lapse (readLine prompt host c).2.2 events
  /-- Launching adds only ambient events. -/
  lapse_launch : ∀ (command : Command) (host : H) (c : Console),
    ∃ events, c.Lapse (launch command host c).2.2 events

/-- A discreet host under which the flag of interrupts is set exactly by the signals that it logs.
-/
class Heedful (H : Type) [Host H] : Prop where
  /-- While a line is read only signals set the flag. -/
  flagged_readLine : ∀ (prompt : Prompt) (host : H) (c : Console),
    ∃ events, c.Flagged (readLine prompt host c).2.2 events
  /-- While a command is launched only signals set the flag. -/
  flagged_launch : ∀ (command : Command) (host : H) (c : Console),
    ∃ events, c.Flagged (launch command host c).2.2 events

/-- A host that leaves the surroundings in peace, signals and output apart. -/
class Aloof (H : Type) [Host H] : Prop where
  /-- Reading is calm. -/
  calm_readLine : ∀ (prompt : Prompt) (host : H) (c : Console),
    ∃ events, c.Calm (readLine prompt host c).2.2 events
  /-- Launching is calm. -/
  calm_launch : ∀ (command : Command) (host : H) (c : Console),
    ∃ events, c.Calm (launch command host c).2.2 events

instance (H : Type) [Host H] [Heedful H] : Discreet H where
  lapse_readLine prompt host c := by
    obtain ⟨events, h⟩ := Heedful.flagged_readLine prompt host c
    exact ⟨events, h.toLapse⟩
  lapse_launch command host c := by
    obtain ⟨events, h⟩ := Heedful.flagged_launch command host c
    exact ⟨events, h.toLapse⟩

instance (H : Type) [Host H] [Aloof H] : Heedful H where
  flagged_readLine prompt host c := by
    obtain ⟨events, h⟩ := Aloof.calm_readLine prompt host c
    exact ⟨events, h.toFlagged⟩
  flagged_launch command host c := by
    obtain ⟨events, h⟩ := Aloof.calm_launch command host c
    exact ⟨events, h.toFlagged⟩

instance : Aloof Script where
  calm_readLine _ s c := by
    change ∃ events, c.Calm (s.readLine c).2.2 events
    unfold Script.readLine
    split
    · exact ⟨[], Console.Calm.refl c⟩
    · exact ⟨_, c.calm_signalIf _⟩
  calm_launch command s c := c.calm_launchScripted command s.launches

instance : Aloof Piped where
  calm_readLine prompt _ c := by
    obtain ⟨events, h, -⟩ := c.calm_promptFor prompt.text
    exact ⟨events, h⟩
  calm_launch command p c := c.calm_launchScripted command p.launches

end Host

end RecallShell
