import Mathlib.Data.List.Induction
import RecallShell.Proofs.Session.Waiting

/-!
# Interrupts that are handled

No interrupt is lost: after a signal an interrupt begins to be handled, or the flag is still set when
the session ends. None is invented: an interrupt is handled only after a read of a command that was
cut short, or when a signal has come since the last one began to be handled. A read that was cut
short has one interrupt handled before the next command is asked for, unless a signal comes
meanwhile. So no more interrupts are handled than signals came and reads of commands were cut short.
-/

namespace RecallShell

open Text

/-- Whether an event is the beginning of the handling of an interrupt. -/
def Event.isInterrupting : Event → Bool
  | .interrupting => true
  | _ => false

/-- Whether an event is the end of a read of a command that was cut short. -/
def Event.isCut : Event → Bool
  | .answered .command .interrupted => true
  | _ => false

/-- An interrupt begins to be handled only right after a read of a command that was cut short, or
when some signal has not been handled. -/
def Justified (waiting : Bool) : List Event → Event → Prop :=
  fun before event => event = .interrupting →
    before.getLast? = some (.answered .command .interrupted) ∨ Unhandled waiting before

/-- What the events so far leave to be handled: an interrupt that waits, and a read that was cut
short just now. -/
def owed (waiting : Bool) (events : List Event) : Nat :=
  (waits waiting events).toNat + (events.getLast?.any Event.isCut).toNat

/-- No more interrupts are handled, if each is justified, than signals have come and reads of
commands have been cut short. -/
theorem countP_isInterrupting_le {waiting : Bool} {events : List Event}
    (h : Throughout (Justified waiting) events) :
    events.countP Event.isInterrupting + owed waiting events ≤
      waiting.toNat + events.countP Event.isSignal + events.countP Event.isCut := by
  induction events using List.reverseRecOn with
  | nil => simp [owed, waits]
  | append_singleton events event ih =>
    obtain ⟨hbefore, hlast⟩ := throughout_append.1 h
    have hevent : Justified waiting events event := by
      simpa using hlast [] event [] rfl
    have hle := ih hbefore
    have hbit : ∀ b : Bool, b.toNat ≤ 1 := fun b => by cases b <;> decide
    have hwaits := hbit (waits waiting events)
    simp only [owed, List.countP_append, List.getLast?_concat, waits_append] at hle ⊢
    cases event with
    | interrupting =>
      -- What justifies it was owed before and is not owed any more.
      have howed : 1 ≤ (waits waiting events).toNat +
          (events.getLast?.any Event.isCut).toNat := by
        rcases hevent rfl with hcut | hunhandled
        · rw [hcut]
          exact Nat.le_add_left _ _
        · rw [waits_iff_unhandled.2 hunhandled]
          exact Nat.le_add_right _ _
      simp [waits, Event.isInterrupting, Event.isSignal, Event.isCut]
      omega
    | signaled =>
      simp [waits, Event.isInterrupting, Event.isSignal, Event.isCut]
      omega
    | answered prompt outcome =>
      have hcut := hbit (Event.isCut (.answered prompt outcome))
      cases hc : Event.isCut (.answered prompt outcome) <;>
        simp [waits, Event.isInterrupting, Event.isSignal, hc] <;> omega
    | _ =>
      simp [waits, Event.isInterrupting, Event.isSignal, Event.isCut]
      omega

/-- Events that are the handling of one interrupt. -/
def Handled (events : List Event) : Prop :=
  ∃ during, events = .interrupting :: during ∧ ∀ event ∈ during, event.isOfHandling = true

/-- The handling of an interrupt goes on as long as nothing else comes about. -/
theorem Handled.append {events new : List Event} (h : Handled events)
    (hnew : ∀ event ∈ new, event.isOfHandling = true) : Handled (events ++ new) := by
  obtain ⟨during, rfl, hduring⟩ := h
  refine ⟨during ++ new, rfl, ?_⟩
  intro event he
  rcases List.mem_append.1 he with hd | hn
  · exact hduring event hd
  · exact hnew event hn

/-- After the handling of an interrupt another one waits exactly if a signal came meanwhile. -/
theorem Handled.waits_iff {waiting : Bool} {before events : List Event} (h : Handled events) :
    waits waiting (before ++ events) = true ↔ Event.signaled ∈ events := by
  obtain ⟨during, rfl, hduring⟩ := h
  have hn : Event.interrupting ∉ during := fun hi => by cases hduring _ hi
  rw [waits_append, waits, waits_of_not_mem hn, Bool.false_or, List.any_eq_true, List.mem_cons]
  constructor
  · rintro ⟨event, he, hs⟩
    cases event <;> first | exact Or.inr he | cases hs
  · rintro (hs | hs)
    · cases hs
    · exact ⟨_, hs, rfl⟩

/-- What follows a read of a command that was cut short: an interrupt is handled, and then a command
is asked for, or another interrupt is handled if a signal came meanwhile. -/
def Heeded (after : List Event) : Prop :=
  ∃ handled next rest, after = handled ++ next :: rest ∧ Handled handled ∧
    (.signaled ∈ handled ∧ next = .interrupting ∨
      .signaled ∉ handled ∧ ∃ view, next = .asked .command view)

/-- Whatever comes later, a read that was cut short has been followed as it should. -/
theorem Heeded.append {after : List Event} (h : Heeded after) (new : List Event) :
    Heeded (after ++ new) := by
  obtain ⟨handled, next, rest, rfl, hrest⟩ := h
  exact ⟨handled, next, rest ++ new, by simp, hrest⟩

/-- What has followed a read that was cut short, at a stage at which that is not all yet. -/
def Stage.Aftermath : Stage → List Event → Prop
  | .heard .interrupted, after | .handling false, after => after = []
  | .offering waited, after | .replied waited _, after | .repeating waited _, after =>
    waited = false ∧ Handled after
  | .polling, after => Handled after
  | .prompting, after => Handled after ∧ .signaled ∉ after
  | .handling true, after => Handled after ∧ .signaled ∈ after
  | _, _ => False

/-- Why an interrupt is about to be handled at a stage. -/
def Stage.Cause (waiting : Bool) : Stage → List Event → Prop
  | .handling true, events => waits waiting events = true
  | .handling false, events => events.getLast? = some (.answered .command .interrupted)
  | _, _ => True

/-- When an interrupt has been handled nothing else is about to be. -/
theorem Stage.cause_resumed (waiting waited : Bool) (events : List Event) :
    (Stage.resumed waited).Cause waiting events := by
  cases waited <;> trivial

/-- After an interrupt on account of a read that was cut short a new turn begins. -/
theorem Stage.aftermath_resumed {waited : Bool} {after : List Event}
    (h : waited = false ∧ Handled after) : (Stage.resumed waited).Aftermath after := by
  obtain ⟨rfl, hhandled⟩ := h
  exact hhandled

/-- Up to a stage each interrupt was handled for a cause, and each read that was cut short has been
followed as it should. -/
structure Attends (waiting : Bool) (stage : Stage) (events : List Event) : Prop where
  /-- Each interrupt was justified. -/
  justified : Throughout (Justified waiting) events
  /-- If one is about to be handled it is justified, too. -/
  cause : stage.Cause waiting events
  /-- Each read that was cut short has been followed as far as can be by now. -/
  cuts : ∀ before after, events = before ++ .answered .command .interrupted :: after →
    Heeded after ∨ stage.Aftermath after

/-- Where nothing comes about, a stage gives way to one that accounts for as much. -/
theorem Attends.pass {waiting : Bool} {a b : Stage} {events : List Event}
    (h : Attends waiting a events) (hcause : b.Cause waiting events)
    (hold : ∀ before after, events = before ++ .answered .command .interrupted :: after →
      a.Aftermath after → b.Aftermath after) : Attends waiting b events where
  justified := h.justified
  cause := hcause
  cuts := fun before after he => (h.cuts before after he).imp_right (hold before after he)

/-- Further events attend to interrupts as long as those that they begin to handle are justified and
what follows a read that was cut short, before or among them, goes on as it should. -/
theorem Attends.grow {waiting : Bool} {a b : Stage} {events new : List Event}
    (h : Attends waiting a events)
    (hnew : Throughout (fun before => Justified waiting (events ++ before)) new)
    (hcause : b.Cause waiting (events ++ new))
    (hold : ∀ before after, events = before ++ .answered .command .interrupted :: after →
      a.Aftermath after → Heeded (after ++ new) ∨ b.Aftermath (after ++ new))
    (hcut : ∀ before after, new = before ++ .answered .command .interrupted :: after →
      Heeded after ∨ b.Aftermath after) : Attends waiting b (events ++ new) where
  justified := throughout_append.2 ⟨h.justified, hnew⟩
  cause := hcause
  cuts := by
    intro before after he
    rcases append_eq_append_cons_cases he with ⟨rest, hevents, rfl⟩ | ⟨rest, -, hrest⟩
    · rcases h.cuts before rest hevents with hheeded | hafter
      · exact Or.inl (hheeded.append new)
      · exact hold before rest hevents hafter
    · exact hcut rest after hrest

/-- Events that neither begin the handling of an interrupt nor end a read that was cut short attend
to interrupts as long as what follows such a read goes on as it should. -/
theorem Attends.step {waiting : Bool} {a b : Stage} {events new : List Event}
    (h : Attends waiting a events) (hnew : Event.interrupting ∉ new)
    (hcut : Event.answered .command .interrupted ∉ new)
    (hcause : b.Cause waiting (events ++ new))
    (hold : ∀ before after, events = before ++ .answered .command .interrupted :: after →
      a.Aftermath after → Heeded (after ++ new) ∨ b.Aftermath (after ++ new)) :
    Attends waiting b (events ++ new) := by
  refine h.grow (throughout_of_forall fun event he _ hi => absurd (hi ▸ he) hnew) hcause hold ?_
  rintro before after rfl
  exact absurd (by simp) hcut

/-- Where no read that was cut short still has anything to come, events that neither begin the
handling of an interrupt nor end such a read attend to interrupts. -/
theorem Attends.aside {waiting : Bool} {a b : Stage} {events new : List Event}
    (h : Attends waiting a events) (ha : ∀ after, ¬ a.Aftermath after)
    (hnew : Event.interrupting ∉ new) (hcut : Event.answered .command .interrupted ∉ new)
    (hcause : b.Cause waiting (events ++ new)) : Attends waiting b (events ++ new) :=
  h.step hnew hcut hcause fun _ after _ hafter => absurd hafter (ha after)

/-- While an interrupt is handled, what comes about attends to interrupts. -/
theorem Attends.handling {waiting waited : Bool} {a b : Stage} {events new : List Event}
    (h : Attends waiting a events) (hnew : ∀ event ∈ new, event.isOfHandling = true)
    (hcause : b.Cause waiting (events ++ new))
    (ha : ∀ {after}, a.Aftermath after → waited = false ∧ Handled after)
    (hb : ∀ {after}, waited = false ∧ Handled after → b.Aftermath after) :
    Attends waiting b (events ++ new) := by
  refine h.step (fun hi => by cases hnew _ hi) (fun hc => by cases hnew _ hc) hcause ?_
  intro before after _ hafter
  obtain ⟨hwaited, hhandled⟩ := ha hafter
  exact Or.inr (hb ⟨hwaited, hhandled.append hnew⟩)

/-- Ambient events neither begin the handling of an interrupt nor end a read. -/
theorem cut_not_mem_of_ambient {events : List Event}
    (h : ∀ event ∈ events, event.isAmbient = true) :
    Event.answered .command .interrupted ∉ events :=
  fun hc => by cases h _ hc

/-- Once an interrupt has been handled that a read which was cut short had begun, another one waits
exactly if a signal came meanwhile. -/
theorem waits_after_cut {waiting : Bool} {before after : List Event} (h : Handled after) :
    waits waiting (before ++ .answered .command .interrupted :: after) = true ↔
      Event.signaled ∈ after := by
  rw [List.append_cons]
  exact h.waits_iff

/-- An event that comes neither first nor in between in a frame is its last one. -/
theorem last_of_framed {first last event : Event} {ambient before after : List Event}
    (h : first :: ambient ++ [last] = before ++ event :: after) (hfirst : event ≠ first)
    (hambient : event ∉ ambient) : last = event ∧ after = [] := by
  rcases append_eq_append_cons_cases h with ⟨rest, hframe, -⟩ | ⟨rest, -, hrest⟩
  · have hmem : event ∈ first :: ambient := by simp [hframe]
    rcases List.mem_cons.1 hmem with hf | ha
    · exact absurd hf hfirst
    · exact absurd ha hambient
  · cases rest <;> simp_all

namespace Session

variable {H : Type}

/-- From one moment of a session to a later one nothing comes about but what can while an interrupt
is handled. -/
def Handles (s t : Session H) : Prop :=
  ∃ events, t.console.log = s.console.log ++ events ∧ ∀ event ∈ events, event.isOfHandling = true

theorem Handles.trans {s t u : Session H} (h : s.Handles t) (h' : t.Handles u) : s.Handles u := by
  obtain ⟨new, hlog, hnew⟩ := h
  obtain ⟨new', hlog', hnew'⟩ := h'
  refine ⟨new ++ new', by rw [hlog', hlog, List.append_assoc], fun event he => ?_⟩
  exact (List.mem_append.1 he).elim (hnew event) (hnew' event)

/-- What is said while an interrupt is handled is part of the handling. -/
theorem Handles.of_calm {s t : Session H} {events : List Event}
    (h : s.console.Calm t.console events) : s.Handles t :=
  ⟨events, h.log, fun event he => Event.isOfHandling_of_isAmbient (h.ambient event he)⟩

/-- All that the log has gained is part of the handling. -/
theorem Handles.isOfHandling {s t : Session H} {new : List Event} (h : s.Handles t)
    (hlog : t.console.log = s.console.log ++ new) : ∀ event ∈ new, event.isOfHandling = true := by
  obtain ⟨events, hevents, hhandling⟩ := h
  obtain rfl := List.append_cancel_left (hlog.symm.trans hevents)
  exact hhandling

/-- The read of an answer to the offer is part of the handling. -/
theorem handles_ask [Host H] [Host.Discreet H] (s : Session H) :
    s.Handles (s.ask .offer).2 := by
  obtain ⟨ambient, hambient, hlog⟩ := s.log_ask .offer
  exact ⟨_, hlog, isOfHandling_framed rfl hambient rfl⟩

/-- The launch of a command once more is part of the handling. -/
theorem handles_launch [Host H] [Host.Discreet H] (s : Session H) (command : Command) :
    s.Handles (s.launch .offer command).2 := by
  obtain ⟨ambient, hambient, hlog⟩ := s.log_launch .offer command
  exact ⟨_, hlog, isOfHandling_framed rfl hambient rfl⟩

variable [Host H] [Host.Heedful H]

/-- The launch of a command that was read begins no handling and ends no read. -/
theorem aside_launch_command (s : Session H) (command : Command) {new : List Event}
    (hlog : (s.launch .command command).2.console.log = s.console.log ++ new) :
    .interrupting ∉ new ∧ .answered .command .interrupted ∉ new := by
  obtain ⟨ambient, hf⟩ := s.framed_launch .command command
  obtain rfl := List.append_cancel_left (hlog.symm.trans hf.log)
  simp [interrupting_not_mem_of_ambient hf.framed, cut_not_mem_of_ambient hf.framed]

/-- Each step attends to interrupts. -/
theorem Step.attends {waiting : Bool} {a b : Stage} {s t : Session H} {events new : List Event}
    (hs : Step a s b t) (hw : s.Watches waiting a events) (h : Attends waiting a events)
    (hlog : t.console.log = s.console.log ++ new) : Attends waiting b (events ++ new) := by
  -- A step without events adds nothing to the log, and the stages alone decide.
  have hstay : ∀ {c : Stage}, t.console.log = s.console.log → Attends waiting c events →
      Attends waiting c (events ++ new) := by
    intro c ht hc
    obtain rfl : new = [] := by
      rw [ht] at hlog
      simpa using hlog
    rwa [List.append_nil]
  cases hs with
  | idle hp =>
    refine hstay rfl (h.pass trivial ?_)
    rintro before after rfl hafter
    refine ⟨hafter, fun hsignal => ?_⟩
    have hwaits := hw.flag.trans ((waits_after_cut hafter).2 hsignal)
    rw [hp] at hwaits
    cases hwaits
  | notice hp =>
    have hwaits : waits waiting events = true := hw.flag.symm.trans hp
    refine hstay rfl (h.pass hwaits ?_)
    rintro before after rfl hafter
    exact ⟨hafter, (waits_after_cut hafter).1 hwaits⟩
  | @list waited =>
    obtain ⟨said, hc, hlist⟩ := s.calm_list
    obtain rfl : new = .interrupting :: said :=
      List.append_cancel_left (hlog.symm.trans hlist)
    have hsaid : ∀ event ∈ said, event.isOfHandling = true :=
      fun event he => Event.isOfHandling_of_isAmbient (hc.ambient event he)
    refine h.grow ?_ trivial ?_ ?_
    · rw [throughout_cons]
      refine ⟨fun _ => ?_, throughout_of_forall ?_⟩
      · rw [List.append_nil]
        cases waited with
        | true => exact Or.inr (waits_iff_unhandled.1 h.cause)
        | false => exact Or.inl h.cause
      · rintro event he _ rfl
        cases hc.ambient _ he
    · rintro before after - hafter
      cases waited with
      | true => exact Or.inl ⟨after, .interrupting, said, rfl, hafter.1, Or.inl ⟨hafter.2, rfl⟩⟩
      | false =>
        obtain rfl : after = [] := hafter
        exact Or.inr ⟨rfl, said, rfl, hsaid⟩
    · intro before after he
      cases before with
      | nil => cases he
      | cons _ before =>
        obtain ⟨-, rfl⟩ := List.cons.inj he
        exact absurd (by simp) (cut_not_mem_of_ambient hc.ambient)
  | answer => exact h.handling (s.handles_ask.isOfHandling hlog) trivial id id
  | silence =>
    exact h.handling (s.handles_ask.isOfHandling hlog) (Stage.cause_resumed _ _ _) id
      Stage.aftermath_resumed
  | decline =>
    exact hstay rfl (h.pass (Stage.cause_resumed _ _ _) fun _ _ _ => Stage.aftermath_resumed)
  | nothing =>
    obtain ⟨_, hc, -⟩ := s.calm_say Recall.nothingToRepeat
    exact h.handling ((Handles.of_calm hc).isOfHandling hlog) (Stage.cause_resumed _ _ _) id
      Stage.aftermath_resumed
  | @accept _ _ _ entry =>
    obtain ⟨_, hc, -⟩ := s.calm_say (Recall.announcement entry)
    exact h.handling ((Handles.of_calm hc).isOfHandling hlog) trivial id id
  | again =>
    exact h.handling ((s.handles_launch _).isOfHandling hlog)
      (Stage.cause_resumed _ _ _) id Stage.aftermath_resumed
  | @againFailed _ _ entry e =>
    obtain ⟨_, hc⟩ := (s.launch .offer (Command.ofEntry entry)).2.calm_warn_say
      (Recall.failureWarning entry e) (Recall.failureLine e)
    exact h.handling (((s.handles_launch _).trans (.of_calm hc)).isOfHandling hlog)
      (Stage.cause_resumed _ _ _) id Stage.aftermath_resumed
  | hear =>
    obtain ⟨ambient, hf⟩ := s.framed_ask .command
    obtain rfl := List.append_cancel_left (hlog.symm.trans hf.log)
    have hambient : Event.interrupting ∉ ambient := interrupting_not_mem_of_ambient hf.framed
    refine h.grow (throughout_of_forall ?_) trivial ?_ ?_
    · rintro event he _ rfl
      simp [hambient] at he
    · rintro before after - ⟨hhandled, hsignal⟩
      exact Or.inl ⟨after, _, _, rfl, hhandled, Or.inr ⟨hsignal, s.view, rfl⟩⟩
    · intro before after he
      obtain ⟨houtcome, rfl⟩ := last_of_framed he (by simp) (cut_not_mem_of_ambient hf.framed)
      rw [(Event.answered.inj houtcome).2]
      exact Or.inr rfl
  | blank => exact hstay rfl (h.pass trivial fun _ _ _ => False.elim)
  | remember => exact hstay rfl (h.pass trivial fun _ _ _ => False.elim)
  | cut => exact hstay rfl (h.pass hw.trail fun _ _ _ => id)
  | finish =>
    obtain ⟨_, hc, -⟩ := s.console.calm_flush
    obtain rfl := List.append_cancel_left (hlog.symm.trans hc.log)
    exact h.aside (fun _ => id) (interrupting_not_mem_of_ambient hc.ambient)
      (cut_not_mem_of_ambient hc.ambient) trivial
  | fail => exact hstay rfl (h.pass trivial fun _ _ _ => False.elim)
  | keep =>
    rcases s.log_keep with hkeep | ⟨e, hkeep⟩ <;>
      obtain rfl := List.append_cancel_left (hlog.symm.trans hkeep) <;>
      exact h.aside (fun _ => id) (by simp) (by simp) trivial
  | launched =>
    obtain ⟨hinterrupting, hcut⟩ := s.aside_launch_command _ hlog
    exact h.aside (fun _ => id) hinterrupting hcut trivial
  | @complain _ program command e =>
    obtain ⟨ambient, hf⟩ := s.framed_launch .command command
    obtain ⟨hinterrupting, hcut⟩ := s.aside_launch_command command hf.log
    rw [Session.complain, Console.complain, Console.record, hf.log, List.append_assoc] at hlog
    obtain rfl := List.append_cancel_left hlog
    refine h.aside (fun _ => id) ?_ ?_ trivial
    · simpa using hinterrupting
    · simpa using hcut
  | fatal =>
    obtain ⟨hinterrupting, hcut⟩ := s.aside_launch_command _ hlog
    exact h.aside (fun _ => id) hinterrupting hcut trivial

/-- At every stage of its course a session has attended to interrupts. -/
theorem Path.attends {stage : Stage} {s t : Session H} (h : Path .polling s stage t) :
    Attends s.console.pending stage (s.since t) := by
  have hwatches : s.Watches s.console.pending .polling [] :=
    ⟨rfl, throughout_nil _, by simp [Stage.Trail]⟩
  have hattends : Attends s.console.pending .polling [] :=
    ⟨throughout_nil _, trivial, fun before after he => by simp at he⟩
  have hinv := h.invariant
    (J := fun stage u events => u.Watches s.console.pending stage events ∧
      Attends s.console.pending stage events) ⟨hwatches, hattends⟩ ?_
  · exact hinv.2.2
  · rintro b t c u xs hs ⟨hwatches, hattends⟩
    obtain ⟨new, hlog, hwatches'⟩ := hs.watches hwatches
    exact ⟨new, hlog, hwatches', hs.attends hwatches hattends hlog⟩

/-- When a session ends, an interrupt waits exactly if a signal has not been handled. -/
theorem pending_run_iff (s : Session H) :
    s.run.2.console.pending = true ↔ Unhandled s.console.pending s.events := by
  rw [s.path_run.watches.flag, waits_iff_unhandled]
  rfl

/-- No interrupt is lost: after a signal, or after the start with an interrupt waiting, an interrupt
begins to be handled, or one waits when the session ends. None is invented: each that is handled is
justified. A read of a command that was cut short has one handled, and then the next command is
asked for, unless a signal came meanwhile. So no more are handled than signals came, with the one
that may have been waiting, and reads of commands were cut short. -/
theorem interrupts_handled (settings : Settings) (host : H) (console : Console) :
    let s := start settings host console
    (∀ before after, s.events = before ++ .signaled :: after →
      .interrupting ∈ after ∨ s.run.2.console.pending = true) ∧
    (console.pending = true → .interrupting ∈ s.events ∨ s.run.2.console.pending = true) ∧
    Throughout (Justified console.pending) s.events ∧
    (∀ before after, s.events = before ++ .answered .command .interrupted :: after →
      Heeded after) ∧
    s.events.countP Event.isInterrupting ≤
      console.pending.toNat + s.events.countP Event.isSignal + s.events.countP Event.isCut := by
  intro s
  have hended : s.run.2.console.pending = true ↔ Unhandled console.pending s.events := by
    rw [s.pending_run_iff, pending_start]
  have hattends : Attends console.pending (.over s.run.1) s.events := by
    rw [← pending_start settings host console]
    exact s.path_run.attends
  refine ⟨?_, ?_, hattends.justified, ?_, ?_⟩
  · intro before after he
    by_cases hi : Event.interrupting ∈ after
    · exact Or.inl hi
    · exact Or.inr (hended.2 (Or.inl ⟨before, after, he, hi⟩))
  · intro hwaiting
    by_cases hi : Event.interrupting ∈ s.events
    · exact Or.inl hi
    · exact Or.inr (hended.2 (Or.inr ⟨hwaiting, hi⟩))
  · intro before after he
    exact (hattends.cuts before after he).resolve_right id
  · exact Nat.le_trans (Nat.le_add_right _ _) (countP_isInterrupting_le hattends.justified)

/-- A signal comes along with a read that it cuts short, and another one with a later read: two
interrupts are handled, and the one that the read began is heeded. -/
theorem interrupts_handled_of_cut :
    let s := ofScript [⟨.interrupted, true⟩, ⟨.line "n", false⟩, ⟨.line "ls", true⟩] []
    s.events.countP Event.isInterrupting = 2 ∧ s.events.countP Event.isSignal = 2 ∧
      ∃ before after, s.events = before ++ .answered .command .interrupted :: after ∧
        Heeded after := by
  intro s
  refine ⟨by decide +kernel, by decide +kernel, ?_⟩
  have hany : s.events.any Event.isCut = true := by decide +kernel
  obtain ⟨event, he, hcut⟩ := List.any_eq_true.1 hany
  obtain ⟨before, after, hs⟩ := List.append_of_mem he
  have hevent : event = .answered .command .interrupted := by
    unfold Event.isCut at hcut
    split at hcut
    · rfl
    · cases hcut
  rw [hevent] at hs
  exact ⟨before, after, hs, (interrupts_handled _ _ _).2.2.2.1 before after hs⟩

end Session

end RecallShell
