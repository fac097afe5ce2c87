import RecallShell.Proofs.Session.Course

/-!
# Complaints

On an aloof host nobody but the session itself writes diagnostics, and the session notes each one in
the log. So what the diagnostics gain along a path is what the log has to tell of them: the
complaints one after the other.
-/

namespace RecallShell

open Text

/-- The diagnostic that an event tells of. -/
def Event.complaint? : Event → Option String
  | .complained text => some text
  | _ => none

/-- The diagnostics that were written, in order. -/
def complaintsOf (events : List Event) : List String := events.filterMap Event.complaint?

theorem complaintsOf_append (xs ys : List Event) :
    complaintsOf (xs ++ ys) = complaintsOf xs ++ complaintsOf ys :=
  List.filterMap_append

/-- Ambient events tell of no diagnostics. -/
theorem complaintsOf_ambient {events : List Event}
    (h : ∀ event ∈ events, event.isAmbient = true) : complaintsOf events = [] := by
  refine List.filterMap_eq_nil_iff.2 fun event he => ?_
  have hambient := h event he
  cases event <;> first | rfl | simp [Event.isAmbient] at hambient

namespace Console

/-- From `c` to `d` the log tells of all diagnostics that are written. -/
def Voiced (c d : Console) : Prop :=
  ∃ events, d.log = c.log ++ events ∧
    d.diagnostics = c.diagnostics ++ (complaintsOf events).flatMap encode

theorem Voiced.refl (c : Console) : c.Voiced c := ⟨[], by simp, by simp [complaintsOf]⟩

theorem Voiced.trans {c d e : Console} (h : c.Voiced d) (h' : d.Voiced e) : c.Voiced e := by
  obtain ⟨xs, hlog, hdiagnostics⟩ := h
  obtain ⟨ys, hlog', hdiagnostics'⟩ := h'
  refine ⟨xs ++ ys, ?_, ?_⟩
  · rw [hlog', hlog, List.append_assoc]
  · rw [hdiagnostics', hdiagnostics, complaintsOf_append, List.flatMap_append, List.append_assoc]

/-- In a calm lapse there are no diagnostics to tell of. -/
theorem Calm.voiced {c d : Console} {events : List Event} (h : c.Calm d events) :
    c.Voiced d := by
  refine ⟨events, h.log, ?_⟩
  rw [h.diagnostics, complaintsOf_ambient h.ambient]
  simp

/-- An event that tells of no diagnostic is noted when none is written. -/
theorem voiced_record (c : Console) {event : Event} (h : event.complaint? = none) :
    c.Voiced (c.record event) :=
  ⟨[event], rfl, by simp [record, complaintsOf, h]⟩

/-- A diagnostic is noted when it is written. -/
theorem voiced_complain (c : Console) (text : String) : c.Voiced (c.complain text) :=
  ⟨[.complained text], rfl, by simp [complain, record, complaintsOf, Event.complaint?]⟩

end Console

namespace Session

variable {H : Type}

/-- Beginning a session writes no diagnostics. -/
theorem diagnostics_start (settings : Settings) (host : H) (console : Console) :
    (start settings host console).console.diagnostics = console.diagnostics := by
  simp only [start]
  split <;> rfl

theorem voiced_sayAll (s : Session H) (lines : List String) :
    s.console.Voiced (s.sayAll lines).console := by
  obtain ⟨_, hc, -⟩ := s.calm_sayAll lines
  exact hc.voiced

theorem voiced_list (s : Session H) : s.console.Voiced s.list.console := by
  have hnoted : s.console.Voiced (s.clearPending.record .interrupting).console :=
    ⟨[.interrupting], rfl, by
      simp [record, clearPending, Console.record, Console.takePending, complaintsOf,
        Event.complaint?]⟩
  exact hnoted.trans (voiced_sayAll _ _)

/-- A history that could not be written is complained of. -/
theorem voiced_keep (s : Session H) : s.console.Voiced s.keep.console := by
  have hsaved : ∀ disk failure,
      s.console.Voiced ((s.onDisk disk).record (.saved failure)).console :=
    fun disk failure => ⟨[.saved failure], rfl, by
      simp [onDisk, record, Console.record, complaintsOf, Event.complaint?]⟩
  rcases hw : s.history.save s.path s.console.disk with ⟨_ | e, disk⟩
  · rename_i e
    rw [keep_of_error hw]
    exact ((hsaved disk (some e)).trans (Console.voiced_record _ rfl)).trans
      (Console.voiced_complain _ _)
  · rw [keep_of_ok hw]
    exact hsaved disk none

variable [Host H] [Host.Aloof H]

theorem voiced_ask (s : Session H) (prompt : Prompt) :
    s.console.Voiced (s.ask prompt).2.console := by
  have hasked : s.console.Voiced (s.console.record (.asked prompt s.view)) :=
    s.console.voiced_record rfl
  obtain ⟨_, hc⟩ := Host.Aloof.calm_readLine prompt s.host
    (s.console.record (.asked prompt s.view))
  exact (hasked.trans hc.voiced).trans (Console.voiced_record _ rfl)

theorem voiced_launch (s : Session H) (prompt : Prompt) (command : Command) :
    s.console.Voiced (s.launch prompt command).2.console := by
  have hlaunching : s.console.Voiced (s.console.record (.launching prompt command s.view)) :=
    s.console.voiced_record rfl
  obtain ⟨_, hc⟩ := Host.Aloof.calm_launch command s.host
    (s.console.record (.launching prompt command s.view))
  exact (hlaunching.trans hc.voiced).trans (Console.voiced_record _ rfl)

/-- In each step the log tells of all diagnostics that are written. -/
theorem Step.voiced {a b : Stage} {s t : Session H} (hs : Step a s b t) :
    s.console.Voiced t.console := by
  cases hs with
  | idle | notice | decline | blank | remember | cut | fail => exact Console.Voiced.refl _
  | list => exact s.voiced_list
  | answer | silence => exact s.voiced_ask .offer
  | nothing =>
    obtain ⟨_, hc, -⟩ := s.calm_say Recall.nothingToRepeat
    exact hc.voiced
  | @accept _ _ _ entry =>
    obtain ⟨_, hc, -⟩ := s.calm_say (Recall.announcement entry)
    exact hc.voiced
  | again => exact s.voiced_launch .offer _
  | @againFailed _ _ entry e =>
    obtain ⟨_, hc⟩ := (s.launch .offer (Command.ofEntry entry)).2.calm_warn_say
      (Recall.failureWarning entry e) (Recall.failureLine e)
    exact (s.voiced_launch .offer _).trans hc.voiced
  | hear => exact s.voiced_ask .command
  | finish =>
    obtain ⟨_, hc, -⟩ := s.console.calm_flush
    exact hc.voiced
  | keep => exact s.voiced_keep
  | launched | fatal => exact s.voiced_launch .command _
  | complain => exact (s.voiced_launch .command _).trans (Console.voiced_complain _ _)

/-- What the diagnostics gain along a path are the complaints that the log tells of. -/
theorem Path.diagnostics {a b : Stage} {s t : Session H} (h : Path a s b t) :
    t.console.diagnostics =
      s.console.diagnostics ++ (complaintsOf (s.since t)).flatMap encode := by
  have hvoiced : s.console.Voiced t.console := by
    induction h with
    | refl => exact Console.Voiced.refl _
    | step _ hs ih => exact ih.trans hs.voiced
  obtain ⟨events, hlog, hdiagnostics⟩ := hvoiced
  rw [since_eq hlog]
  exact hdiagnostics

end Session

end RecallShell
