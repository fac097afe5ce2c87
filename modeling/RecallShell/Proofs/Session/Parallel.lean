import RecallShell.Proofs.Host.Oblivious
import RecallShell.Proofs.Session.Lockstep
import RecallShell.Proofs.Session.Record

/-!
# Sessions side by side

What a session with an oblivious host does depends on its history, its host, its disk and the flag
of interrupts alone. Two sessions that agree in these take the same steps, whatever their logs,
diagnostics and outputs hold already and whatever becomes of what they say. So a session whose
output fails does what it would do anyway, and its output has accepted the front of what it would
have been given.
-/

namespace RecallShell

open Text

/-- A sink that may run out of room and whose flushes may fail. It takes something at a time, and a
write beyond its room is not just cut short by a signal, for then it would be tried again and again.
-/
structure Sink.Limited (s : Sink) : Prop where
  /-- Something is taken at a time. -/
  chunk : s.chunk ≠ some 0
  /-- A write beyond the room takes nothing or fails for good. -/
  refusal : ∀ cause, s.refusal = .fails cause → cause.isInterruption = false

namespace Session

variable {H : Type}

/-- What happens from `s` to `t` happens likewise from `s'` to `t'`, and these come to agree. -/
structure Parallel (s t s' t' : Session H) : Prop where
  /-- Their histories are kept at the same place. -/
  path : t'.path = t.path
  /-- They have the same history. -/
  history : t'.history = t.history
  /-- They have the same host. -/
  host : t'.host = t.host
  /-- Their surroundings have come the same way. -/
  console : s.console.Parallel t.console s'.console t'.console

/-- Two sessions agree in everything but their outputs and the traces of these. -/
structure Resembles (s s' : Session H) : Prop where
  /-- Their histories are kept at the same place. -/
  path : s'.path = s.path
  /-- They have the same history. -/
  history : s'.history = s.history
  /-- They have the same host. -/
  host : s'.host = s.host
  /-- They have the same disk. -/
  disk : s'.console.disk = s.console.disk
  /-- An interrupt waits for both or for neither. -/
  pending : s'.console.pending = s.console.pending
  /-- The same diagnostics have been written. -/
  diagnostics : s'.console.diagnostics = s.console.diagnostics
  /-- The same has happened: what was asked, answered, saved, launched and complained of, with what
  the history and its file held at each of these moments. -/
  deeds : s'.console.deeds = s.console.deeds

namespace Parallel

variable {s t s' t' : Session H} (h : Parallel s t s' t')

include h

/-- Sessions that have come the same way from where they resembled each other do so still. -/
theorem resembles (hdiagnostics : s'.console.diagnostics = s.console.diagnostics)
    (hdeeds : s'.console.deeds = s.console.deeds) : t.Resembles t' := by
  obtain ⟨data, hdata, hdata'⟩ := h.console.diagnostics
  obtain ⟨events, hevents, hevents'⟩ := h.console.deeds
  refine ⟨h.path, h.history, h.host, h.console.disk, h.console.pending, ?_, ?_⟩
  · rw [hdata', hdiagnostics, hdata]
  · rw [hevents', hdeeds, hevents]

theorem onConsole {c c' : Console} (hc : s.console.Parallel c s'.console c') :
    Parallel s { t with console := c } s' { t' with console := c' } :=
  ⟨h.path, h.history, h.host, hc⟩

theorem view : t'.view = t.view := by
  rw [Session.view, Session.view, h.history, h.path, h.console.disk, h.console.pending]

theorem record (event : Event) : Parallel s (t.record event) s' (t'.record event) :=
  h.onConsole (h.console.record event)

theorem warn (text : String) : Parallel s (t.warn text) s' (t'.warn text) :=
  h.record _

theorem complain (text : String) : Parallel s (t.complain text) s' (t'.complain text) :=
  h.onConsole (h.console.complain text)

theorem clearPending : Parallel s t.clearPending s' t'.clearPending :=
  h.onConsole (h.console.withPending false)

theorem remember (program : String) : Parallel s (t.remember program) s' (t'.remember program) :=
  ⟨h.path, by rw [Session.remember, Session.remember, h.history], h.host, h.console⟩

theorem say (line : String) : Parallel s (t.say line) s' (t'.say line) :=
  h.onConsole (h.console.emit _)

theorem sayAll (lines : List String) : Parallel s (t.sayAll lines) s' (t'.sayAll lines) := by
  induction lines generalizing t t' with
  | nil => exact h
  | cons line lines ih => exact ih (h.say line)

theorem finish : Parallel s t.finish s' t'.finish :=
  h.onConsole h.console.flush

theorem list : Parallel s t.list s' t'.list := by
  have hlisted := (h.clearPending.record .interrupting).sayAll (Recall.listing t.history.entries)
  rwa [Session.list, Session.list, h.history]

/-- Both histories are written to the same file, or neither. -/
theorem keep : Parallel s t.keep s' t'.keep := by
  have hdisk : ∀ disk, Parallel s (t.onDisk disk) s' (t'.onDisk disk) := fun disk =>
    h.onConsole (h.console.withDisk disk)
  rcases hsave : t.history.save t.path t.console.disk with ⟨_ | e, disk⟩
  · rw [keep_of_error hsave, keep_of_error (by rw [h.history, h.path, h.console.disk, hsave])]
    exact (((hdisk disk).record _).warn _).complain _
  · rw [keep_of_ok hsave, keep_of_ok (by rw [h.history, h.path, h.console.disk, hsave])]
    exact (hdisk disk).record _

variable [Host H] [Host.Oblivious H]

/-- A read brings the same to both. -/
theorem ask (prompt : Prompt) : (t'.ask prompt).1 = (t.ask prompt).1 ∧
    Parallel s (t.ask prompt).2 s' (t'.ask prompt).2 := by
  obtain ⟨hresult, hhost, hconsole⟩ := Host.Oblivious.agree_readLine prompt t.host
    (h.console.record (.asked prompt t.view))
  have hread : Host.readLine prompt t'.host (t'.console.record (.asked prompt t'.view)) =
      Host.readLine prompt t.host (t'.console.record (.asked prompt t.view)) := by
    rw [h.host, h.view]
  simp only [Session.ask, Session.record]
  rw [hread]
  refine ⟨hresult, h.path, h.history, hhost, ?_⟩
  rw [hresult]
  exact hconsole.record _

/-- A launch comes to the same for both. -/
theorem launch (prompt : Prompt) (command : Command) :
    (t'.launch prompt command).1 = (t.launch prompt command).1 ∧
      Parallel s (t.launch prompt command).2 s' (t'.launch prompt command).2 := by
  obtain ⟨hresult, hhost, hconsole⟩ := Host.Oblivious.agree_launch command t.host
    (h.console.record (.launching prompt command t.view))
  have hlaunch : Host.launch command t'.host
        (t'.console.record (.launching prompt command t'.view)) =
      Host.launch command t.host (t'.console.record (.launching prompt command t.view)) := by
    rw [h.host, h.view]
  simp only [Session.launch, Session.record]
  rw [hlaunch]
  refine ⟨hresult, h.path, h.history, hhost, ?_⟩
  rw [hresult]
  exact hconsole.record _

omit h in
/-- Sessions side by side go in lockstep. -/
theorem lockstep (s s' : Session H) : Lockstep fun t t' => Parallel s t s' t' where
  history h := h.history
  pending h := h.console.pending
  ask h := h.ask
  launch h := h.launch
  list h := h.list
  say h := h.say
  warn h := h.warn
  complain h := h.complain
  remember h := h.remember
  keep h := h.keep
  finish h := h.finish

/-- So they take the same step. -/
theorem step {a b : Stage} {u : Session H} (hs : Step a t b u) :
    ∃ u', Step a t' b u' ∧ Parallel s u s' u' :=
  (lockstep s s').step h hs

/-- They take the same course. -/
theorem along {a b : Stage} {u : Session H} (hpath : Path a t b u) :
    ∃ u', Path a t' b u' ∧ Parallel s u s' u' :=
  (lockstep s s').along h hpath

/-- They come to the same end. -/
theorem run : t'.run.1 = t.run.1 ∧ Parallel s t.run.2 s' t'.run.2 :=
  (lockstep s s').run h

end Parallel

/-- Along a path on an oblivious host an output that never fails does not begin to. -/
theorem Path.lossless [Host H] [Host.Oblivious H] {a b : Stage} {s t : Session H} (h : Path a s b t)
    (hs : s.console.out.Lossless) : t.console.out.Lossless := by
  have hbegun : Parallel s s s s := ⟨rfl, rfl, rfl, .refl rfl rfl hs.chunk hs.chunk⟩
  obtain ⟨_, -, hparallel⟩ := hbegun.along h
  obtain ⟨said, hsaid, -⟩ := hparallel.console.offered
  exact hsaid.lossless hs

/-- A session begins with another output as it would otherwise. -/
theorem start_out (settings : Settings) (host : H) (console : Console) (out : Sink) :
    start settings host { console with out := out } =
      { start settings host console with
        console := { (start settings host console).console with out := out } } := by
  simp only [start]
  split <;> rfl

/-- However little room its output has, whatever the writes beyond it meet and whatever flushes come
to: a session comes through the same stages as with an output that never fails, at each of which
everything but the output is the same, and to the same end. Its output accepts what there is room
for of what the one that never fails accepts, from the first byte on. -/
theorem output_failure_unnoticed [Host H] [Host.Oblivious H] (settings : Settings) (host : H)
    (console : Console) {out : Sink} (hnever : console.out.Lossless) (hout : out.Limited) :
    let s := start settings host console
    let s' := start settings host { console with out := out }
    (∀ stage t, Path .polling s stage t → ∃ t', Path .polling s' stage t' ∧ t.Resembles t') ∧
      s'.run.1 = s.run.1 ∧ s.run.2.Resembles s'.run.2 ∧
      ∃ said, s.run.2.console.out.accepted = console.out.accepted ++ said ∧
        s'.run.2.console.out.accepted =
          out.accepted ++ said.take (Sink.capped said.length out.room) := by
  intro s s'
  have hs' : s' = { s with console := { s.console with out := out } } :=
    start_out settings host console out
  have hsout : s.console.out = console.out := out_start settings host console
  have hbegun : Parallel s s s' s' := by
    rw [hs']
    exact ⟨rfl, rfl, rfl, .refl rfl rfl (hsout ▸ hnever.chunk) hout.chunk⟩
  have hresembles : ∀ t t', Parallel s t s' t' → t.Resembles t' := fun t t' h =>
    h.resembles (congrArg (·.console.diagnostics) hs') (congrArg (·.console.deeds) hs')
  obtain ⟨hresult, hend⟩ := hbegun.run
  obtain ⟨said, hsaid, hsaid'⟩ := hend.console.offered
  refine ⟨?_, hresult, hresembles _ _ hend, said, ?_, ?_⟩
  · intro stage t hpath
    obtain ⟨t', hpath', ht⟩ := hbegun.along hpath
    exact ⟨t', hpath', hresembles t t' ht⟩
  · rw [hsout] at hsaid
    exact hsaid.accepted_of_lossless hnever
  · rw [show s'.console.out = out from congrArg (·.console.out) hs'] at hsaid'
    exact hsaid'.accepted

/-- The reader is gone in the middle of the announcement of a repeat, and flushes fail before: the
repeat and what follows are launched all the same. -/
theorem output_failure_unnoticed_of_cut :
    let out : Sink := { Sink.unbounded with
      room := some 60
      refusal := .fails (.bare .brokenPipe)
      chunk := some 7
      flushPlan := [none, some (.bare .other)] }
    let s := ofScript [⟨.line "ls -l", true⟩, ⟨.line "r", false⟩, ⟨.line "pwd", false⟩]
      [⟨.asAsked 0, false⟩, ⟨.fails (.fork .tryAgain), true⟩]
    let s' := start (Settings.withHistoryPath (encode "h")) s.host (Console.fresh Disk.bare out)
    60 < s.run.2.console.out.accepted.length ∧
      s'.run.2.console.out.accepted = s.run.2.console.out.accepted.take 60 ∧
      s'.run.1 = .ok 0 ∧ s'.run.2.history.entries = ["ls", "pwd"] ∧
      s'.run.2.console.deeds = s.run.2.console.deeds := by
  intro out s s'
  have hout : out.Limited := by
    refine ⟨by decide, ?_⟩
    rintro cause ⟨rfl⟩
    decide
  obtain ⟨-, hresult, hsame, said, hsaid, hsaid'⟩ := output_failure_unnoticed
    (Settings.withHistoryPath (encode "h")) s.host (Console.fresh Disk.bare Sink.unbounded)
    Sink.lossless_unbounded hout
  have hlength : 60 < s.run.2.console.out.accepted.length := by decide +kernel
  have hend : s.run.1 = .ok 0 ∧ s.run.2.history.entries = ["ls", "pwd"] := by decide +kernel
  refine ⟨hlength, ?_, hresult.trans hend.1,
    (congrArg History.entries hsame.history).trans hend.2, hsame.deeds⟩
  have hsaid : s.run.2.console.out.accepted = said := hsaid
  have hcut : Sink.capped said.length out.room = 60 :=
    Nat.min_eq_right (Nat.le_of_lt (hsaid ▸ hlength))
  rw [hcut] at hsaid'
  rw [hsaid]
  exact hsaid'

end Session

end RecallShell
