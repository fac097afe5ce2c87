import RecallShell.Proofs.Session.Record

/-!
# Interrupts that wait

The flag of interrupts is set at any moment of a session exactly when a signal has come, or was
waiting at the start, since the last interrupt began to be handled. When a command is asked for the
flag is clear, with one exception: an interrupt that was waiting when the turn began has been
handled, and a further signal came while it was. A turn looks at the flag only once.
-/

namespace RecallShell

open Text

/-- Whether an event can come about while an interrupt is being handled. -/
def Event.isOfHandling : Event → Bool
  | .sent _ | .warned _ | .signaled => true
  | .asked .offer _ | .answered .offer _ | .launching .offer _ _ | .launched .offer _ _ => true
  | _ => false

/-- Ambient events can always come about. -/
theorem Event.isOfHandling_of_isAmbient {event : Event} (h : event.isAmbient = true) :
    event.isOfHandling = true := by
  cases event <;> first | rfl | simp [Event.isAmbient] at h

/-- Whether an interrupt waits after some events that did or did not before them. -/
def waits (waiting : Bool) : List Event → Bool
  | [] => waiting
  | .signaled :: events => waits true events
  | .interrupting :: events => waits false events
  | _ :: events => waits waiting events

theorem waits_append (waiting : Bool) (xs ys : List Event) :
    waits waiting (xs ++ ys) = waits (waits waiting xs) ys := by
  fun_induction waits waiting xs <;> simp_all [waits]

/-- While no interrupt begins to be handled, signals add up. -/
theorem waits_of_not_mem {waiting : Bool} {events : List Event}
    (h : Event.interrupting ∉ events) :
    waits waiting events = (waiting || events.any Event.isSignal) := by
  fun_induction waits waiting events <;> simp_all [Event.isSignal]

/-- Whether some signal, or the one waiting at the start, has come since an interrupt last began to
be handled. -/
def Unhandled (waiting : Bool) (events : List Event) : Prop :=
  (∃ before after, events = before ++ .signaled :: after ∧ Event.interrupting ∉ after) ∨
    (waiting = true ∧ Event.interrupting ∉ events)

private theorem exists_signaled_cons {event : Event} {events : List Event} :
    (∃ before after, event :: events = before ++ .signaled :: after ∧
      Event.interrupting ∉ after) ↔
      (event = .signaled ∧ Event.interrupting ∉ events) ∨
        ∃ before after, events = before ++ .signaled :: after ∧ Event.interrupting ∉ after := by
  constructor
  · rintro ⟨before, after, he, hn⟩
    rcases List.cons_eq_append_iff.1 he with ⟨rfl, hs⟩ | ⟨rest, rfl, hr⟩
    · obtain ⟨rfl, rfl⟩ := List.cons.inj hs
      exact Or.inl ⟨rfl, hn⟩
    · exact Or.inr ⟨rest, after, hr, hn⟩
  · rintro (⟨rfl, hn⟩ | ⟨before, after, rfl, hn⟩)
    · exact ⟨[], events, rfl, hn⟩
    · exact ⟨event :: before, after, rfl, hn⟩

/-- An interrupt waits exactly if there is a signal that has not been handled. -/
theorem waits_iff_unhandled {waiting : Bool} {events : List Event} :
    waits waiting events = true ↔ Unhandled waiting events := by
  induction events generalizing waiting with
  | nil => simp [waits, Unhandled]
  | cons event events ih =>
    unfold Unhandled at ih ⊢
    rw [exists_signaled_cons, List.mem_cons]
    cases event <;> simp only [waits, ih] <;> grind

/-- Events that end in the handling of an interrupt; one that waited was no read cut short. -/
def Handling (waited : Bool) (events : List Event) : Prop :=
  ∃ before during, events = before ++ .interrupting :: during ∧
    (∀ event ∈ during, event.isOfHandling = true) ∧
    (waited = true → before.getLast? ≠ some (.answered .command .interrupted))

/-- Handling goes on as long as nothing else comes about. -/
theorem Handling.append {waited : Bool} {events new : List Event} (h : Handling waited events)
    (hnew : ∀ event ∈ new, event.isOfHandling = true) : Handling waited (events ++ new) := by
  obtain ⟨before, during, rfl, hduring, hbefore⟩ := h
  refine ⟨before, during ++ new, by simp, ?_, hbefore⟩
  intro event he
  rcases List.mem_append.1 he with hd | hn
  · exact hduring event hd
  · exact hnew event hn

/-- A read of a command that was cut short is not the last event of handling. -/
theorem Handling.getLast?_ne {waited : Bool} {events : List Event} (h : Handling waited events) :
    events.getLast? ≠ some (.answered .command .interrupted) := by
  obtain ⟨before, during, rfl, hduring, -⟩ := h
  intro hl
  rw [List.getLast?_append_of_ne_nil _ (List.cons_ne_nil _ _)] at hl
  rcases List.mem_cons.1 (List.mem_of_getLast? hl) with hi | hd
  · cases hi
  · cases hduring _ hd

/-- A signal has come in the middle of the handling of an interrupt that had been waiting when the
turn began, and the events end with that handling. -/
def SignaledWhileHandling (events : List Event) : Prop :=
  ∃ before during, events = before ++ .interrupting :: during ∧
    (∀ event ∈ during, event.isOfHandling = true) ∧ Event.signaled ∈ during ∧
    before.getLast? ≠ some (.answered .command .interrupted)

/-- While an interrupt that had waited is handled another one waits exactly if a signal has come
meanwhile. -/
theorem Handling.waits_iff {waiting : Bool} {events : List Event} (h : Handling true events) :
    waits waiting events = true ↔ SignaledWhileHandling events := by
  have hwaits : ∀ {before during : List Event}, (∀ event ∈ during, event.isOfHandling = true) →
      waits waiting (before ++ .interrupting :: during) = during.any Event.isSignal := by
    intro before during hd
    have hn : Event.interrupting ∉ during := fun hi => by cases hd _ hi
    rw [waits_append, waits, waits_of_not_mem hn, Bool.false_or]
  have hany : ∀ {during : List Event},
      during.any Event.isSignal = true ↔ Event.signaled ∈ during := by
    intro during
    rw [List.any_eq_true]
    constructor
    · rintro ⟨event, he, hs⟩
      cases event <;> first | exact he | cases hs
    · intro hs
      exact ⟨_, hs, rfl⟩
  constructor
  · intro hw
    obtain ⟨before, during, rfl, hduring, hbefore⟩ := h
    rw [hwaits hduring, hany] at hw
    exact ⟨before, during, rfl, hduring, hw, hbefore rfl⟩
  · rintro ⟨before, during, rfl, hduring, hs, -⟩
    rw [hwaits hduring, hany]
    exact hs

/-- Ambient events have no interrupt begin to be handled. -/
theorem interrupting_not_mem_of_ambient {events : List Event}
    (h : ∀ event ∈ events, event.isAmbient = true) : Event.interrupting ∉ events :=
  fun hi => by cases h _ hi

/-- After a calm lapse the flag is what the events in the log make of it. -/
theorem Console.Calm.pending_eq_waits {c d : Console} {events : List Event}
    (h : c.Calm d events) : d.pending = waits c.pending events := by
  rw [waits_of_not_mem (interrupting_not_mem_of_ambient h.ambient), h.pending]

/-- After a calm lapse in a frame the flag is what the events in the log make of it. -/
theorem Console.Framed.pending_eq_waits {c d : Console} {first last : Event}
    {ambient : List Event} (h : c.Framed d first last ambient)
    (hfirst : ∀ waiting events, waits waiting (first :: events) = waits waiting events)
    (hlast : ∀ waiting events, waits waiting (last :: events) = waits waiting events) :
    d.pending = waits c.pending (first :: ambient ++ [last]) := by
  have hn := interrupting_not_mem_of_ambient h.framed
  rw [List.cons_append, hfirst, waits_append, hlast, waits, waits_of_not_mem hn, h.pending]

/-- What the events so far say about the way a stage was come to. -/
def Stage.Trail (waiting : Bool) : Stage → List Event → Prop
  | .polling, events | .handling true, events =>
    events.getLast? ≠ some (.answered .command .interrupted)
  | .offering waited, events | .replied waited _, events | .repeating waited _, events =>
    Handling waited events
  | .prompting, events => waits waiting events = true → Handling true events
  | .heard outcome, events => events.getLast? = some (.answered .command outcome)
  | _, _ => True

/-- After an interrupt has been handled the session is where its handling leads. -/
theorem Handling.trail_resumed {waiting waited : Bool} {events : List Event}
    (h : Handling waited events) : (Stage.resumed waited).Trail waiting events := by
  cases waited with
  | true => exact fun _ => h
  | false => exact h.getLast?_ne

/-- Whenever a command is asked for, an interrupt waits exactly if a signal has not been handled,
and that is exactly if a signal came while an interrupt that had waited was being handled. -/
def PromptsClear (waiting : Bool) : List Event → Event → Prop :=
  fun before event => ∀ view, event = .asked .command view →
    (view.pending = true ↔ Unhandled waiting before) ∧
      (view.pending = true ↔ SignaledWhileHandling before)

/-- Whether a command is asked for while an interrupt waits. -/
def Event.isLatePrompt : Event → Bool
  | .asked .command view => view.pending
  | _ => false

namespace Session

variable {H : Type}

/-- The flag is what the events so far make of it, and has been at every prompt. -/
structure Watches (waiting : Bool) (stage : Stage) (s : Session H) (events : List Event) :
    Prop where
  /-- The flag is set exactly if an interrupt waits. -/
  flag : s.console.pending = waits waiting events
  /-- So it was whenever a command was asked for. -/
  prompts : Throughout (PromptsClear waiting) events
  /-- The events fit the stage. -/
  trail : stage.Trail waiting events

/-- Events that do not ask for a command keep watch. -/
theorem Watches.step {waiting : Bool} {a b : Stage} {s t : Session H} {events new : List Event}
    (h : s.Watches waiting a events) (hflag : t.console.pending = waits s.console.pending new)
    (hnew : ∀ event ∈ new, ∀ view, event ≠ .asked .command view)
    (htrail : b.Trail waiting (events ++ new)) : t.Watches waiting b (events ++ new) where
  flag := by rw [hflag, h.flag, waits_append]
  prompts := throughout_append.2
    ⟨h.prompts, throughout_of_forall fun event he _ view hv => absurd hv (hnew event he view)⟩
  trail := htrail

/-- What can come about while an interrupt is handled does not ask for a command. -/
theorem ne_asked_of_isOfHandling {event : Event} (h : event.isOfHandling = true) (view : View) :
    event ≠ .asked .command view := by
  rintro rfl
  cases h

/-- While an interrupt is handled, calm lapses keep watch. -/
theorem Watches.calm {waiting waited : Bool} {a b : Stage} {s t : Session H}
    {events new : List Event} (h : s.Watches waiting a events) (hh : Handling waited events)
    (hc : s.console.Calm t.console new)
    (htrail : Handling waited (events ++ new) → b.Trail waiting (events ++ new)) :
    t.Watches waiting b (events ++ new) := by
  have hnew : ∀ event ∈ new, event.isOfHandling = true :=
    fun event he => Event.isOfHandling_of_isAmbient (hc.ambient event he)
  exact h.step hc.pending_eq_waits (fun event he => ne_asked_of_isOfHandling (hnew event he))
    (htrail (hh.append hnew))

/-- The offer's question and answer are part of the handling. -/
theorem isOfHandling_framed {first last : Event} {ambient : List Event}
    (hfirst : first.isOfHandling = true) (hambient : ∀ event ∈ ambient, event.isAmbient = true)
    (hlast : last.isOfHandling = true) :
    ∀ event ∈ first :: ambient ++ [last], event.isOfHandling = true := by
  intro event he
  rcases List.mem_append.1 he with hf | hl
  · rcases List.mem_cons.1 hf with rfl | ha
    · exact hfirst
    · exact Event.isOfHandling_of_isAmbient (hambient event ha)
  · rw [List.mem_singleton.1 hl]
    exact hlast

variable [Host H] [Host.Heedful H]

/-- The answer to the offer keeps watch. -/
theorem Watches.ask_offer {waiting waited : Bool} {a b : Stage} {s : Session H}
    {events : List Event} (h : s.Watches waiting a events) (hh : Handling waited events)
    (htrail : ∀ {new}, Handling waited (events ++ new) → b.Trail waiting (events ++ new)) :
    ∃ new, (s.ask .offer).2.console.log = s.console.log ++ new ∧
      (s.ask .offer).2.Watches waiting b (events ++ new) := by
  obtain ⟨ambient, hf⟩ := s.framed_ask .offer
  have hnew : ∀ event ∈ .asked .offer s.view :: ambient ++ [.answered .offer (s.ask .offer).1],
      event.isOfHandling = true := isOfHandling_framed rfl hf.framed rfl
  exact ⟨_, hf.log, h.step (hf.pending_eq_waits (fun _ _ => rfl) fun _ _ => rfl)
    (fun event he => ne_asked_of_isOfHandling (hnew event he)) (htrail (hh.append hnew))⟩

/-- A launch keeps watch. -/
theorem Watches.launch {waiting : Bool} {a b : Stage} {s : Session H} {events : List Event}
    (h : s.Watches waiting a events) (prompt : Prompt) (command : Command)
    (htrail : ∀ {ambient}, (∀ event ∈ ambient, event.isAmbient = true) →
      b.Trail waiting (events ++ (.launching prompt command s.view :: ambient ++
        [.launched prompt command (s.launch prompt command).1]))) :
    ∃ new, (s.launch prompt command).2.console.log = s.console.log ++ new ∧
      (s.launch prompt command).2.Watches waiting b (events ++ new) := by
  obtain ⟨ambient, hf⟩ := s.framed_launch prompt command
  refine ⟨_, hf.log, h.step (hf.pending_eq_waits (fun _ _ => rfl) fun _ _ => rfl) ?_
    (htrail hf.framed)⟩
  rintro event he view rfl
  rcases List.mem_append.1 he with hfr | hl
  · rcases List.mem_cons.1 hfr with hl | ha
    · cases hl
    · cases hf.framed _ ha
  · cases List.mem_singleton.1 hl

/-- The second event of a frame is the last one. -/
theorem getLast?_framed (events ambient : List Event) (first last : Event) :
    (events ++ (first :: ambient ++ [last])).getLast? = some last := by
  rw [← List.append_assoc, List.getLast?_concat]

/-- Each step keeps watch. -/
theorem Step.watches {waiting : Bool} {a b : Stage} {s t : Session H} {events : List Event}
    (hs : Step a s b t) (h : s.Watches waiting a events) :
    ∃ new, t.console.log = s.console.log ++ new ∧ t.Watches waiting b (events ++ new) := by
  have hstay : ∀ {c : Stage}, c.Trail waiting events →
      ∃ new, s.console.log = s.console.log ++ new ∧ s.Watches waiting c (events ++ new) :=
    fun hc => ⟨[], by simp, h.step rfl (by simp) (by simpa using hc)⟩
  cases hs with
  | idle hp =>
    refine hstay fun hw => ?_
    rw [h.flag, hw] at hp
    cases hp
  | notice => exact hstay h.trail
  | @list waited =>
    obtain ⟨said, hc, hlog⟩ := s.calm_list
    have hnew : ∀ event ∈ said, event.isOfHandling = true :=
      fun event he => Event.isOfHandling_of_isAmbient (hc.ambient event he)
    refine ⟨.interrupting :: said, hlog, h.step hc.pending_eq_waits ?_ ?_⟩
    · rintro event he view rfl
      rcases List.mem_cons.1 he with hi | ha
      · cases hi
      · cases hnew _ ha
    · refine ⟨events, said, rfl, hnew, ?_⟩
      rintro rfl
      exact h.trail
  | answer => exact h.ask_offer h.trail id
  | silence => exact h.ask_offer h.trail Handling.trail_resumed
  | decline => exact hstay (Handling.trail_resumed h.trail)
  | nothing =>
    obtain ⟨new, hc, -⟩ := s.calm_say Recall.nothingToRepeat
    exact ⟨new, hc.log, h.calm h.trail hc Handling.trail_resumed⟩
  | @accept _ _ _ entry =>
    obtain ⟨new, hc, -⟩ := s.calm_say (Recall.announcement entry)
    exact ⟨new, hc.log, h.calm h.trail hc id⟩
  | again =>
    refine h.launch _ _ fun ha => ?_
    exact (Handling.append h.trail (isOfHandling_framed rfl ha rfl)).trail_resumed
  | @againFailed waited _ entry e =>
    obtain ⟨new, hlog, h'⟩ := h.launch (b := .repeating waited entry) .offer
      (Command.ofEntry entry) fun ha => Handling.append h.trail (isOfHandling_framed rfl ha rfl)
    obtain ⟨said, hc⟩ := (s.launch .offer (Command.ofEntry entry)).2.calm_warn_say
      (Recall.failureWarning entry e) (Recall.failureLine e)
    refine ⟨new ++ said, ?_, ?_⟩
    · rw [hc.log, hlog, List.append_assoc]
    · rw [← List.append_assoc]
      exact h'.calm h'.trail hc Handling.trail_resumed
  | hear =>
    obtain ⟨ambient, hf⟩ := s.framed_ask .command
    refine ⟨_, hf.log, ?_, ?_, ?_⟩
    · rw [hf.pending_eq_waits (fun _ _ => rfl) fun _ _ => rfl, h.flag]
      exact (waits_append _ _ _).symm
    · rw [List.cons_append, throughout_append, throughout_cons, List.append_nil]
      refine ⟨h.prompts, ?_, throughout_of_forall ?_⟩
      · rintro view ⟨⟩
        have hview : s.view.pending = waits waiting events := h.flag
        rw [hview]
        refine ⟨waits_iff_unhandled, fun hw => (h.trail hw).waits_iff.1 hw, ?_⟩
        rintro ⟨before, during, rfl, hduring, hsignal, hbefore⟩
        have hh : Handling true (before ++ .interrupting :: during) :=
          ⟨before, during, rfl, hduring, fun _ => hbefore⟩
        exact hh.waits_iff.2 ⟨before, during, rfl, hduring, hsignal, hbefore⟩
      · rintro event he _ view rfl
        rcases List.mem_append.1 he with ha | hl
        · cases hf.framed _ ha
        · cases List.mem_singleton.1 hl
    · exact getLast?_framed _ _ _ _
  | blank =>
    refine hstay ?_
    intro hl
    rw [h.trail] at hl
    cases hl
  | remember => exact ⟨[], by simp [Session.remember], h.step rfl (by simp) trivial⟩
  | cut => exact hstay trivial
  | finish =>
    obtain ⟨new, hc, -⟩ := s.console.calm_flush
    refine ⟨new, hc.log, h.step hc.pending_eq_waits ?_ trivial⟩
    rintro event he view rfl
    cases hc.ambient _ he
  | fail => exact hstay trivial
  | keep =>
    have hflag : s.keep.console.pending = s.console.pending := s.pending_keep
    rcases s.log_keep with hlog | ⟨e, hlog⟩
    · exact ⟨_, hlog, h.step hflag (by simp) trivial⟩
    · exact ⟨_, hlog, h.step hflag (by simp) trivial⟩
  | launched =>
    refine h.launch (b := .polling) _ _ fun _ hl => ?_
    rw [getLast?_framed] at hl
    cases hl
  | @complain _ program command e =>
    obtain ⟨new, hlog, h'⟩ := h.launch (b := .launching program command) .command
      command fun _ => trivial
    refine ⟨new ++ [.complained (launchComplaint program e)], ?_, ?_⟩
    · rw [Session.complain, Console.complain, Console.record, hlog, List.append_assoc]
    · rw [← List.append_assoc]
      refine h'.step rfl (by simp) fun hl => ?_
      rw [List.getLast?_concat] at hl
      cases hl
  | @fatal _ _ _ e => exact h.launch (b := .over (.error e)) _ _ fun _ => trivial

/-- At every stage of its course a session is watched. -/
theorem Path.watches {stage : Stage} {s t : Session H} (h : Path .polling s stage t) :
    t.Watches s.console.pending stage (s.since t) := by
  refine (h.invariant ⟨rfl, throughout_nil _, ?_⟩ Step.watches).2
  intro hl
  cases hl

/-- Whenever a session asks for a command, an interrupt waits exactly if some signal has not been
handled, and that is exactly if the turn began with an interrupt waiting and a signal came while
that one was being handled. -/
theorem pending_at_prompt_iff (settings : Settings) (host : H) (console : Console) :
    Throughout (PromptsClear console.pending) (start settings host console).events := by
  have h := (start settings host console).path_run.watches.prompts
  rwa [pending_start] at h

/-- The user interrupts twice, the second time while being offered to repeat an entry: the session
asks for a command all the same. -/
theorem pending_at_prompt_of_interrupted_twice :
    let s := start (Settings.withHistoryPath (encode "h"))
      (⟨[⟨.line "n", true⟩], []⟩ : Script)
      { Console.fresh Disk.bare Sink.unbounded with pending := true }
    ∃ before view after, s.events = before ++ .asked .command view :: after ∧
      view.pending = true ∧ SignaledWhileHandling before := by
  intro s
  have hany : s.events.any Event.isLatePrompt = true := by decide +kernel
  obtain ⟨event, he, hp⟩ := List.any_eq_true.1 hany
  obtain ⟨before, after, hs⟩ := List.append_of_mem he
  cases event with
  | asked prompt view =>
    cases prompt with
    | command =>
      have h := pending_at_prompt_iff _ _ _ before _ after hs view rfl
      exact ⟨before, view, after, hs, hp, h.2.1 hp⟩
    | offer => cases hp
  | _ => cases hp

end Session

end RecallShell
