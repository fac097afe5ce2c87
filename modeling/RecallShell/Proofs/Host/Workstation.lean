import RecallShell.Host.Workstation
import RecallShell.Proofs.Host.Oblivious
import RecallShell.Proofs.Host.Tidy

/-!
# The conduct of workstations

The programs of a workstation write files and may end the session itself, so a workstation is not
aloof. It is discreet all the same: what its programs write joins the log as output. It is oblivious,
since its programs learn nothing of what becomes of their output, and tidy, since all that they write
is flushed.
-/

namespace RecallShell

open Machine

namespace Workstation

/-- What programs write joins the log as output that was sent. -/
theorem lapse_passOn (c : Console) (written : List Written) :
    ∃ events, c.Lapse (passOn c written) events := by
  induction written generalizing c with
  | nil => exact ⟨[], (Console.Calm.refl c).toLapse⟩
  | cons w rest ih =>
    have hfirst : ∃ events, c.Lapse (if w.outlet % 2 == 1 then
        { c with diagnostics := c.diagnostics ++ w.data } else (c.emit w.data).2) events := by
      split
      · exact ⟨[], by simp, by simp⟩
      · obtain ⟨events, h, -⟩ := c.calm_emit w.data
        exact ⟨events, h.toLapse⟩
    obtain ⟨xs, hx⟩ := hfirst
    obtain ⟨ys, hy⟩ := ih _
    exact ⟨xs ++ ys, hx.trans hy⟩

/-- After programs have run, the log has gained what they wrote and perhaps a signal. -/
theorem lapse_consoleAfter (c : Console) (computer : Computer) :
    ∃ events, c.Lapse (consoleAfter c computer) events := by
  obtain ⟨xs, hx⟩ := lapse_passOn { c with disk := computer.world.disk }
    computer.world.written.toList
  unfold consoleAfter
  split
  · exact ⟨xs, hx.log, hx.ambient⟩
  · have hs := (passOn { c with disk := computer.world.disk }
      computer.world.written.toList).calm_signalIf computer.world.interrupted
    exact ⟨_, (Console.Lapse.mk (c := c) hx.log hx.ambient).trans hs.toLapse⟩

instance : Host.Discreet Workstation where
  lapse_readLine prompt w c := by
    change ∃ events, c.Lapse (w.readLine prompt c).2.2 events
    unfold Workstation.readLine
    split
    · exact ⟨[], (Console.Calm.refl c).toLapse⟩
    · obtain ⟨events, h, -⟩ := c.calm_promptFor prompt.text
      exact ⟨events, h.toLapse⟩
  lapse_launch command w c := lapse_consoleAfter c ((w.ready c).launch 0 command).2

/-- What programs have written is passed on to both outputs and both diagnostics. -/
theorem parallel_passOn {b c b' c' : Console} (h : b.Parallel c b' c') (written : List Written) :
    b.Parallel (passOn c written) b' (passOn c' written) := by
  induction written generalizing c c' with
  | nil => exact h
  | cons w rest ih =>
    unfold passOn
    refine ih ?_
    split
    · exact h.diagnose w.data
    · exact h.emit w.data

/-- The surroundings are parallel after programs have run. -/
theorem parallel_consoleAfter {b c b' c' : Console} (h : b.Parallel c b' c')
    (computer : Computer) :
    b.Parallel (consoleAfter c computer) b' (consoleAfter c' computer) := by
  have hpassed := parallel_passOn (h.withDisk computer.world.disk) computer.world.written.toList
  unfold consoleAfter
  split
  · exact hpassed.withPending false
  · exact hpassed.signalIf computer.world.interrupted

instance : Host.Oblivious Workstation where
  agree_readLine {b c b' c'} prompt w h := by
    change b.Agree (w.readLine prompt c) b' (w.readLine prompt c')
    unfold Workstation.readLine
    split
    · exact ⟨rfl, rfl, h⟩
    · exact ⟨rfl, rfl, h.promptFor prompt.text⟩
  agree_launch {b c b' c'} command w h := by
    have hready : w.ready c' = w.ready c := by rw [ready, ready, h.disk]
    change b.Agree (w.launch command c) b' (w.launch command c')
    unfold Workstation.launch
    rw [hready]
    exact ⟨rfl, rfl, parallel_consoleAfter h _⟩

/-- What programs write is flushed as well. -/
theorem tidy_passOn {c : Console} (h : c.out.Tidy) (written : List Written) :
    (passOn c written).out.Tidy := by
  induction written generalizing c with
  | nil => exact h
  | cons w rest ih =>
    rw [passOn]
    refine ih ?_
    split
    · exact h
    · exact Console.tidy_emit h.toLossless w.data

instance : Host.Tidy Workstation where
  tidy_readLine prompt w c h := by
    change (w.readLine prompt c).2.2.out.Tidy
    unfold Workstation.readLine
    split
    · exact h
    · exact Console.tidy_promptFor h prompt.text
  tidy_launch command w c h := by
    change (consoleAfter c ((w.ready c).launch 0 command).2).out.Tidy
    generalize ((w.ready c).launch 0 command).2 = computer
    have hpassed := tidy_passOn (c := { c with disk := computer.world.disk }) h
      computer.world.written.toList
    unfold consoleAfter
    split
    · exact hpassed
    · rw [Console.out_signalIf]
      exact hpassed

end Workstation

end RecallShell
