import RecallShell.Proofs.Host.Conduct
import RecallShell.Proofs.Sink.Room

/-!
# Hosts that do not heed the output

Two surroundings run parallel while the same happens in both and the same bytes are offered to their
outputs, whatever becomes of these and whatever trace that leaves in the log. A host is oblivious
when it keeps surroundings parallel and does the same in both: what becomes of the output makes no
difference to it. Scripted and piped hosts are oblivious. A prompt that cannot be written is worth a
warning, which does not change what is read or launched.
-/

namespace RecallShell

open Text

/-- Whether an event is a trace of output: that some was sent, or a warning, as that a prompt could
not be written. -/
def Event.isTrace : Event → Bool
  | .sent _ | .warned _ => true
  | _ => false

namespace Console

/-- What has happened so far, the traces of output apart. -/
def deeds (c : Console) : List Event := c.log.filter fun event => !event.isTrace

/-- What happens from `b` to `c` happens likewise from `b'` to `c'`: the two end up on the same
disk, with an interrupt waiting in both or in neither, and what has come about on the way is the
same. -/
structure Parallel (b c b' c' : Console) : Prop where
  /-- The disk is the same. -/
  disk : c'.disk = c.disk
  /-- An interrupt waits in both or in neither. -/
  pending : c'.pending = c.pending
  /-- The same diagnostics have been written. -/
  diagnostics : ∃ data, c.diagnostics = b.diagnostics ++ data ∧
    c'.diagnostics = b'.diagnostics ++ data
  /-- The same has happened. -/
  deeds : ∃ events, c.deeds = b.deeds ++ events ∧ c'.deeds = b'.deeds ++ events
  /-- The outputs have been offered the same. -/
  offered : ∃ said, b.out.Offered said c.out ∧ b'.out.Offered said c'.out

/-- Sending output is no deed. -/
@[simp] theorem deeds_recordSent (c : Console) (data : Bytes) :
    (c.recordSent data).deeds = c.deeds := by
  unfold recordSent
  split
  · rfl
  · simp [deeds, record, Event.isTrace]

/-- Nor is a warning. -/
@[simp] theorem deeds_warn (c : Console) (text : String) : (c.warn text).deeds = c.deeds := by
  simp [deeds, warn, record, Event.isTrace]

theorem deeds_record (c : Console) (event : Event) :
    (c.record event).deeds = c.deeds ++ [event].filter fun event => !event.isTrace := by
  rw [deeds, record, List.filter_append]
  rfl

/-- Writing to the output is no deed, whatever becomes of it. -/
@[simp] theorem deeds_emit (c : Console) (bs : Bytes) : (c.emit bs).2.deeds = c.deeds :=
  deeds_recordSent _ _

/-- Nor is the last flush. -/
@[simp] theorem deeds_flush (c : Console) : c.flush.deeds = c.deeds := by
  unfold flush
  split
  · exact deeds_recordSent _ _
  · rfl

namespace Parallel

/-- Nothing has happened at first. -/
theorem refl {b b' : Console} (hdisk : b'.disk = b.disk) (hpending : b'.pending = b.pending)
    (hchunk : b.out.chunk ≠ some 0) (hchunk' : b'.out.chunk ≠ some 0) : Parallel b b b' b' where
  disk := hdisk
  pending := hpending
  diagnostics := ⟨[], by simp, by simp⟩
  deeds := ⟨[], by simp, by simp⟩
  offered := ⟨[], .refl hchunk, .refl hchunk'⟩

variable {b c b' c' : Console} (h : Parallel b c b' c')

include h

theorem record (event : Event) : Parallel b (c.record event) b' (c'.record event) := by
  obtain ⟨events, hevents, hevents'⟩ := h.deeds
  refine ⟨h.disk, h.pending, h.diagnostics,
    ⟨events ++ [event].filter fun event => !event.isTrace, ?_, ?_⟩, h.offered⟩
  · rw [deeds_record, hevents, List.append_assoc]
  · rw [deeds_record, hevents', List.append_assoc]

/-- A warning on the one side makes no difference. -/
theorem warn_left (text : String) : Parallel b (c.warn text) b' c' :=
  ⟨h.disk, h.pending, h.diagnostics, by rw [deeds_warn]; exact h.deeds, h.offered⟩

/-- Nor does a warning on the other. -/
theorem warn_right (text : String) : Parallel b c b' (c'.warn text) :=
  ⟨h.disk, h.pending, h.diagnostics, by rw [deeds_warn]; exact h.deeds, h.offered⟩

theorem withDisk (disk : Disk) : Parallel b { c with disk := disk } b' { c' with disk := disk } :=
  ⟨rfl, h.pending, h.diagnostics, h.deeds, h.offered⟩

theorem withPending (pending : Bool) :
    Parallel b { c with pending := pending } b' { c' with pending := pending } :=
  ⟨h.disk, rfl, h.diagnostics, h.deeds, h.offered⟩

/-- The same diagnostics are written on both sides. -/
theorem diagnose (data : Bytes) :
    Parallel b { c with diagnostics := c.diagnostics ++ data }
      b' { c' with diagnostics := c'.diagnostics ++ data } := by
  obtain ⟨written, hwritten, hwritten'⟩ := h.diagnostics
  refine ⟨h.disk, h.pending, ⟨written ++ data, ?_, ?_⟩, h.deeds, h.offered⟩
  · rw [hwritten, List.append_assoc]
  · rw [hwritten', List.append_assoc]

theorem complain (text : String) : Parallel b (c.complain text) b' (c'.complain text) :=
  (h.diagnose (encode text)).record _

theorem signalIf (arrives : Bool) : Parallel b (c.signalIf arrives) b' (c'.signalIf arrives) := by
  cases arrives with
  | false => exact h
  | true => exact (h.withPending true).record _

/-- A calm lapse on either side that brings no signal and no deed, but the same output, makes no
difference. -/
theorem calm {d d' : Console} {events events' : List Event} (hc : c.Calm d events)
    (hc' : c'.Calm d' events') (hquiet : events.any Event.isSignal = false)
    (hquiet' : events'.any Event.isSignal = false) (hdeeds : d.deeds = c.deeds)
    (hdeeds' : d'.deeds = c'.deeds)
    (hout : ∃ said, b.out.Offered said d.out ∧ b'.out.Offered said d'.out) :
    Parallel b d b' d' where
  disk := by rw [hc'.disk, h.disk, hc.disk]
  pending := by rw [hc'.pending, hquiet', h.pending, hc.pending, hquiet]
  diagnostics := by
    rw [hc.diagnostics, hc'.diagnostics]
    exact h.diagnostics
  deeds := by
    rw [hdeeds, hdeeds']
    exact h.deeds
  offered := hout

/-- What is written is offered to both outputs. -/
theorem emit (bs : Bytes) : Parallel b (c.emit bs).2 b' (c'.emit bs).2 := by
  obtain ⟨events, hc, hquiet⟩ := c.calm_emit bs
  obtain ⟨events', hc', hquiet'⟩ := c'.calm_emit bs
  obtain ⟨said, hsaid, hsaid'⟩ := h.offered
  refine h.calm hc hc' hquiet hquiet' (c.deeds_emit bs) (c'.deeds_emit bs) ⟨said ++ bs, ?_, ?_⟩
  · rw [out_emit]
    exact hsaid.emit bs
  · rw [out_emit]
    exact hsaid'.emit bs

/-- The last flush offers nothing. -/
theorem flush : Parallel b c.flush b' c'.flush := by
  obtain ⟨events, hc, hquiet⟩ := c.calm_flush
  obtain ⟨events', hc', hquiet'⟩ := c'.calm_flush
  obtain ⟨said, hsaid, hsaid'⟩ := h.offered
  refine h.calm hc hc' hquiet hquiet' c.deeds_flush c'.deeds_flush ⟨said, ?_, ?_⟩
  · rw [out_flush]
    exact hsaid.flush
  · rw [out_flush]
    exact hsaid'.flush

/-- The prompt is offered to both outputs; on either side it may be worth a warning. -/
theorem promptFor (prompt : String) :
    Parallel b (c.promptFor prompt) b' (c'.promptFor prompt) := by
  have hemit := h.emit (encode prompt)
  -- The prompt may be written on the one side and not on the other.
  rcases c.promptFor_cases prompt with hc | ⟨text, hc⟩ <;>
    rcases c'.promptFor_cases prompt with hc' | ⟨text', hc'⟩ <;> rw [hc, hc']
  · exact hemit
  · exact hemit.warn_right text'
  · exact hemit.warn_left text
  · exact (hemit.warn_left text).warn_right text'

end Parallel

/-- What is done in two surroundings comes to the same, with the same left to do it again, and the
surroundings it leaves are parallel. -/
structure Agree {α H : Type} (b : Console) (r : α × H × Console) (b' : Console)
    (r' : α × H × Console) : Prop where
  /-- It comes to the same. -/
  result : r'.1 = r.1
  /-- The same is left to do it again. -/
  host : r'.2.1 = r.2.1
  /-- The surroundings are parallel. -/
  console : Parallel b r.2.2 b' r'.2.2

/-- A prompted read comes to the same in parallel surroundings. -/
theorem Parallel.readPrompted {b c b' c' : Console} (h : Parallel b c b' c')
    (prompt : String) (input : Input) :
    Agree b (RecallShell.readPrompted prompt input c)
      b' (RecallShell.readPrompted prompt input c') :=
  ⟨rfl, rfl, h.promptFor prompt⟩

/-- So does a scripted launch. -/
theorem Parallel.launchScripted {b c b' c' : Console} (h : Parallel b c b' c')
    (command : Command) (launches : List ScriptedLaunch) :
    Agree b (RecallShell.launchScripted command launches c)
      b' (RecallShell.launchScripted command launches c') := by
  cases launches with
  | nil => exact ⟨rfl, rfl, h⟩
  | cons item rest => exact ⟨rfl, rfl, h.signalIf item.signal⟩

end Console

namespace Host

/-- A host that does the same whatever becomes of the output. -/
class Oblivious (H : Type) [Host H] : Prop where
  /-- Reading brings the same. -/
  agree_readLine : ∀ {b c b' c' : Console} (prompt : Prompt) (host : H),
    b.Parallel c b' c' → b.Agree (readLine prompt host c) b' (readLine prompt host c')
  /-- Launching comes to the same. -/
  agree_launch : ∀ {b c b' c' : Console} (command : Command) (host : H),
    b.Parallel c b' c' → b.Agree (launch command host c) b' (launch command host c')

instance : Oblivious Script where
  agree_readLine {b c b' c'} _ s h := by
    change b.Agree (s.readLine c) b' (s.readLine c')
    unfold Script.readLine
    split
    · exact ⟨rfl, rfl, h⟩
    · exact ⟨rfl, rfl, h.signalIf _⟩
  agree_launch command s h := by
    obtain ⟨hresult, hhost, hconsole⟩ := h.launchScripted command s.launches
    exact ⟨hresult, congrArg (Script.mk s.reads) hhost, hconsole⟩

instance : Oblivious Piped where
  agree_readLine prompt p h := by
    obtain ⟨hresult, hhost, hconsole⟩ := h.readPrompted prompt.text p.input
    exact ⟨hresult, congrArg (Piped.mk · p.launches) hhost, hconsole⟩
  agree_launch command p h := by
    obtain ⟨hresult, hhost, hconsole⟩ := h.launchScripted command p.launches
    exact ⟨hresult, congrArg (Piped.mk p.input) hhost, hconsole⟩

end Host

end RecallShell
