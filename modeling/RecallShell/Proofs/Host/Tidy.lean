import RecallShell.Proofs.Host.Conduct
import RecallShell.Proofs.Sink.Room

/-!
# Output that is sent at once

On a sink that never fails, the flush behind what is written sends all of it on, with whatever had
been waiting there. From then on nothing waits, as long as nobody writes without a flush; hosts do
not. So the log tells of every piece of output by itself, in the order in which it is written.
-/

namespace RecallShell

open Text

namespace Sink

/-- A sink that never fails and in which nothing waits for a flush. -/
structure Tidy (s : Sink) : Prop extends Lossless s where
  /-- Nothing waits. -/
  pending : s.pending = []

namespace Lossless

variable {s : Sink}

/-- A flush sends all that waits. -/
theorem flush_fst (h : s.Lossless) : s.flush.1 = .ok s.pending ∧ s.flush.2.pending = [] := by
  have hnone : s.flushPlan.headD s.flushFault = none := by
    cases hplan : s.flushPlan with
    | nil => exact h.fault
    | cons fault plan => exact h.plan fault (hplan ▸ List.mem_cons_self)
  rw [Sink.flush, hnone]
  exact ⟨rfl, rfl⟩

/-- What is written and flushed is sent, behind what has been waiting. -/
theorem emit (h : s.Lossless) (bs : Bytes) :
    ∃ t : Sink, s.emit bs = (.ok (), s.pending ++ bs, t) ∧ t.Tidy := by
  obtain ⟨hsent, hpending⟩ := (h.take bs).flush_fst
  have hfits : fitting s.room bs = bs := by rw [h.room, fitting_none]
  have hflush : (s.take bs).flush = (.ok (s.pending ++ bs), (s.take bs).flush.2) :=
    Prod.ext hsent rfl
  exact ⟨_, emit_of_flush h.chunk hfits hflush, (h.take bs).flush, hpending⟩

end Lossless

end Sink

namespace Console

/-- What is emitted leaves nothing waiting. -/
theorem tidy_emit {c : Console} (h : c.out.Lossless) (bs : Bytes) : (c.emit bs).2.out.Tidy := by
  obtain ⟨t, ht, htidy⟩ := h.emit bs
  rw [out_emit, ht]
  exact htidy

/-- What is emitted is logged as sent, behind what has been waiting. -/
theorem log_emit {c : Console} (h : c.out.Lossless) {bs : Bytes} (hbs : bs ≠ []) :
    (c.emit bs).2.log = c.log ++ [.sent (c.out.pending ++ bs)] := by
  obtain ⟨t, ht, -⟩ := h.emit bs
  have hne : (c.out.pending ++ bs).isEmpty = false := by simp [hbs]
  simp [emit, ht, recordSent, hne, record]

end Console

/-- A host that flushes what it writes. -/
class Host.Tidy (H : Type) [Host H] : Prop where
  /-- Nothing is left waiting by a read. -/
  tidy_readLine : ∀ (prompt : Prompt) (host : H) (c : Console), c.out.Tidy →
    (readLine prompt host c).2.2.out.Tidy
  /-- Nothing is left waiting by a launch. -/
  tidy_launch : ∀ (command : Command) (host : H) (c : Console), c.out.Tidy →
    (launch command host c).2.2.out.Tidy

namespace Console

/-- A prompt leaves nothing waiting. -/
theorem tidy_promptFor {c : Console} (h : c.out.Tidy) (prompt : String) :
    (c.promptFor prompt).out.Tidy := by
  rw [out_promptFor, ← out_emit]
  exact c.tidy_emit h.toLossless _

end Console

instance : Host.Tidy Script where
  tidy_readLine _ s c h := by
    change (s.readLine c).2.2.out.Tidy
    unfold Script.readLine
    split
    · exact h
    · rw [Console.out_signalIf]
      exact h
  tidy_launch command s c h := (c.out_launchScripted command s.launches).symm ▸ h

instance : Host.Tidy Piped where
  tidy_readLine prompt _ _ h := Console.tidy_promptFor h prompt.text
  tidy_launch command p c h := (c.out_launchScripted command p.launches).symm ▸ h

end RecallShell
