import RecallShell.Proofs.Session.Record
import RecallShell.Proofs.Text.Words

/-!
# What a repeat launches

An interrupt is handled with the history as it stood when the last line was read, so the newest
entry is the program that was recorded last. Taking the offer launches the words of that program in
the foreground, and nothing else. The program of a line may hold blanks that do not separate
arguments; these separate the words of an entry all the same.
-/

namespace RecallShell

open Text Recall

/-- What an event says that a read came to, with what its line was read for. -/
def Event.answer? : Event → Option (Prompt × ReadOutcome)
  | .answered prompt outcome => some (prompt, outcome)
  | _ => none

/-- The command that an event asks to be launched, with what its line was read for. -/
def Event.launch? : Event → Option (Prompt × Command)
  | .launching prompt command _ => some (prompt, command)
  | _ => none

/-- What the reads came to that events tell of, in order. -/
def answersOf (events : List Event) : List (Prompt × ReadOutcome) :=
  events.filterMap Event.answer?

/-- The commands that events ask to be launched, in order. -/
def launchesOf (events : List Event) : List (Prompt × Command) := events.filterMap Event.launch?

/-- The outcomes are those of the events that answer a read. -/
theorem mem_answersOf {events : List Event} {prompt : Prompt} {outcome : ReadOutcome} :
    (prompt, outcome) ∈ answersOf events ↔ Event.answered prompt outcome ∈ events := by
  constructor
  · intro h
    obtain ⟨event, he, ha⟩ := List.mem_filterMap.1 h
    cases event with
    | answered =>
      cases ha
      exact he
    | _ => cases ha
  · intro h
    exact List.mem_filterMap.2 ⟨_, h, rfl⟩

/-- Ambient events answer no read and ask for no launch. -/
theorem Event.answer?_launch?_of_isAmbient {event : Event} (h : event.isAmbient = true) :
    event.answer? = none ∧ event.launch? = none := by
  cases event <;> first | exact ⟨rfl, rfl⟩ | simp [Event.isAmbient] at h

@[simp] theorem answersOf_append (xs ys : List Event) :
    answersOf (xs ++ ys) = answersOf xs ++ answersOf ys := List.filterMap_append

@[simp] theorem launchesOf_append (xs ys : List Event) :
    launchesOf (xs ++ ys) = launchesOf xs ++ launchesOf ys := List.filterMap_append

/-- Ambient events answer no read together. -/
theorem answersOf_ambient {events : List Event} (h : ∀ event ∈ events, event.isAmbient = true) :
    answersOf events = [] :=
  List.filterMap_eq_nil_iff.2 fun event he => (Event.answer?_launch?_of_isAmbient (h event he)).1

/-- Ambient events ask for no launch together. -/
theorem launchesOf_ambient {events : List Event} (h : ∀ event ∈ events, event.isAmbient = true) :
    launchesOf events = [] :=
  List.filterMap_eq_nil_iff.2 fun event he => (Event.answer?_launch?_of_isAmbient (h event he)).2

/-- The newest entry is offered as long as it is not blank. -/
theorem Recall.candidate?_of_newest? {history : History} {entry : String}
    (h : history.newest? = some entry) :
    candidate? history = if allBlank entry.toList then none else some entry := by
  rw [candidate?, h]
  simp only [Command.isEmpty_ofEntry]

/-- A program that was read off a line and recorded holds something. -/
theorem ne_empty_of_mem_recorded {events : List Event} {program : String}
    (h : program ∈ recorded events) : program ≠ "" := by
  obtain ⟨event, -, hp⟩ := List.mem_filterMap.1 h
  cases event with
  | answered prompt outcome =>
    cases prompt <;> cases outcome <;> simp only [Event.program?] at hp
    case command.line line =>
      exact (Command.mem_args_parse (Command.mem_args_of_program? hp)).1
    all_goals cases hp
  | _ => cases hp

/-- Whether the session goes on after a turn. -/
def Turn.goesOn {H : Type} : Turn H → Bool
  | .again _ => true
  | .ended .. => false

namespace Session

variable {H : Type}

/-- From one moment of a session to a later one reads come to some outcomes, and some commands are
launched. -/
def Passes (s t : Session H) (answers : List (Prompt × ReadOutcome))
    (launches : List (Prompt × Command)) : Prop :=
  ∃ events, t.console.log = s.console.log ++ events ∧ answersOf events = answers ∧
    launchesOf events = launches

theorem Passes.trans {s t u : Session H} {xs xs' : List (Prompt × ReadOutcome)}
    {ys ys' : List (Prompt × Command)} (h : s.Passes t xs ys) (h' : t.Passes u xs' ys') :
    s.Passes u (xs ++ xs') (ys ++ ys') := by
  obtain ⟨new, hlog, rfl, rfl⟩ := h
  obtain ⟨new', hlog', rfl, rfl⟩ := h'
  refine ⟨new ++ new', ?_, answersOf_append _ _, launchesOf_append _ _⟩
  rw [hlog', hlog, List.append_assoc]

/-- What has happened since tells of these outcomes and launches. -/
theorem Passes.of_since {s t : Session H} {answers : List (Prompt × ReadOutcome)}
    {launches : List (Prompt × Command)} (h : s.Passes t answers launches) :
    answersOf (s.since t) = answers ∧ launchesOf (s.since t) = launches := by
  obtain ⟨new, hlog, hanswers, hlaunches⟩ := h
  rw [since_eq hlog]
  exact ⟨hanswers, hlaunches⟩

/-- In a calm lapse nothing is read and nothing is launched. -/
theorem Passes.of_calm {s t : Session H} {events : List Event}
    (h : s.console.Calm t.console events) : s.Passes t [] [] :=
  ⟨events, h.log, answersOf_ambient h.ambient, launchesOf_ambient h.ambient⟩

variable [Host H]

/-- A session that comes up in the run of another one with an interrupt about to be handled: one
that was waiting when a turn began, or one that cut the read of a turn short. -/
inductive Interruption : Session H → Session H → Prop
  | waiting {s} (h : s.console.pending = true) : Interruption s s.clearPending
  | cut {s} (h : (s.settle.ask .command).1 = .interrupted) :
      Interruption s (s.settle.ask .command).2.clearPending
  | later {s t u} (h : s.turn = .again t) (hu : Interruption t u) : Interruption s u

/-- A turn that the session goes on after leads to the session it has reached. -/
theorem turn_eq_again {s : Session H} (h : s.turn.goesOn = true) :
    s.turn = .again s.turn.reached.2 := by
  cases ht : s.turn with
  | again t => rfl
  | ended result t =>
    rw [ht] at h
    cases h

/-- An interrupt that is about to be handled lies on the path of the session. -/
theorem Interruption.path {s t : Session H} (h : Interruption s t) :
    ∃ waited u, Path .polling s (.handling waited) u ∧ t = u.clearPending := by
  induction h with
  | waiting hp => exact ⟨true, _, (Step.notice hp).path, rfl⟩
  | @cut s hi =>
    have hear : Path .polling s (.heard (s.settle.ask .command).1) (s.settle.ask .command).2 :=
      s.path_settle.step Step.hear
    rw [hi] at hear
    exact ⟨false, _, hear.step Step.cut, rfl⟩
  | @later s t u ht _ ih =>
    obtain ⟨waited, v, hv, hu⟩ := ih
    have hturn := s.path_turn
    rw [ht] at hturn
    exact ⟨waited, v, hturn.trans hv, hu⟩

variable [Host.Discreet H]

/-- A read comes to its outcome. -/
theorem passes_ask (s : Session H) (prompt : Prompt) :
    s.Passes (s.ask prompt).2 [(prompt, (s.ask prompt).1)] [] := by
  obtain ⟨ambient, hambient, hlog⟩ := s.log_ask prompt
  refine ⟨_, hlog, ?_, ?_⟩
  · rw [answersOf_append]
    change answersOf ambient ++ _ = _
    rw [answersOf_ambient hambient]
    rfl
  · rw [launchesOf_append]
    change launchesOf ambient ++ _ = _
    rw [launchesOf_ambient hambient]
    rfl

/-- A launch launches its command. -/
theorem passes_launch (s : Session H) (prompt : Prompt) (command : Command) :
    s.Passes (s.launch prompt command).2 [] [(prompt, command)] := by
  obtain ⟨ambient, hambient, hlog⟩ := s.log_launch prompt command
  refine ⟨_, hlog, ?_, ?_⟩
  · rw [answersOf_append]
    change answersOf ambient ++ _ = _
    rw [answersOf_ambient hambient]
    rfl
  · rw [launchesOf_append]
    change (prompt, command) :: launchesOf ambient ++ _ = _
    rw [launchesOf_ambient hambient]
    rfl

/-- Repeating an entry launches its words, and does not come to an empty history. -/
theorem passes_repeatEntry (s : Session H) (entry : String) :
    s.Passes (s.repeatEntry entry).2 [] [(.offer, Command.ofEntry entry)] ∧
      (s.repeatEntry entry).1 ≠ .emptyHistory := by
  obtain ⟨_, hsay, -⟩ := s.calm_say (announcement entry)
  have h := (Passes.of_calm hsay).trans
    ((s.say (announcement entry)).passes_launch .offer (Command.ofEntry entry))
  unfold repeatEntry
  split
  · rename_i launched t hl
    rw [hl] at h
    exact ⟨h, by simp⟩
  · rename_i e t hl
    rw [hl] at h
    obtain ⟨_, hfail⟩ := t.calm_warn_say (failureWarning entry e) (failureLine e)
    exact ⟨h.trans (Passes.of_calm hfail), by simp⟩

/-- Taking the offer launches the words of the entry that is offered, if there is one. Another
answer launches nothing. -/
theorem passes_answerOffer (s : Session H) (answer : String) :
    s.Passes (s.answerOffer answer).2 []
      (if accepts answer then
        (candidate? s.history).toList.map fun entry => (.offer, Command.ofEntry entry)
      else []) := by
  unfold answerOffer
  split
  · cases candidate? s.history with
    | some entry => exact (s.passes_repeatEntry entry).1
    | none =>
      obtain ⟨_, hsay, -⟩ := s.calm_say nothingToRepeat
      exact Passes.of_calm hsay
  · exact ⟨[], by simp, rfl, rfl⟩

/-- Taking the offer comes to an empty history exactly when no entry is offered. -/
theorem answerOffer_eq_emptyHistory_iff (s : Session H) {answer : String}
    (h : accepts answer = true) :
    (s.answerOffer answer).1 = .emptyHistory ↔ candidate? s.history = none := by
  rw [answerOffer, if_pos h]
  cases candidate? s.history with
  | some entry => simpa using (s.passes_repeatEntry entry).2
  | none => simp

/-- An interrupt is listed and answered by one read at the offer, with the history as it was. -/
theorem passes_offer {s l : Session H}
    (h : l = (s.record .interrupting).sayAll (listing s.history.entries)) :
    s.Passes (l.ask .offer).2 [(.offer, (l.ask .offer).1)] [] ∧
      (l.ask .offer).2.history = s.history := by
  subst h
  obtain ⟨said, hsaid, -⟩ := (s.record .interrupting).calm_sayAll (listing s.history.entries)
  have hinterrupting : s.Passes (s.record .interrupting) [] [] := ⟨[.interrupting], rfl, rfl, rfl⟩
  have hlist := hinterrupting.trans (Passes.of_calm hsaid)
  exact ⟨hlist.trans (passes_ask _ .offer), history_sayAll _ _⟩

/-- Whatever the session, an interrupt whose offer is taken launches the words of the entry that is
offered; where there is none, the history counts as empty. -/
theorem launchesOf_handleInterrupt (s : Session H) {answer : String} (h : accepts answer = true)
    (hanswer : .answered .offer (.line answer) ∈ s.since s.handleInterrupt.2) :
    launchesOf (s.since s.handleInterrupt.2) =
        (candidate? s.history).toList.map (fun entry => (.offer, Command.ofEntry entry)) ∧
      (s.handleInterrupt.1 = .emptyHistory ↔ candidate? s.history = none) := by
  obtain ⟨hask, hkept⟩ := passes_offer (s := s) rfl
  have hhandle := s.handleInterrupt_eq_takeReply rfl
  have hmem := mem_answersOf.2 hanswer
  generalize (s.record .interrupting).sayAll (listing s.history.entries) = l at *
  generalize (l.ask .offer).1 = outcome, (l.ask .offer).2 = t at *
  rw [hhandle] at hmem ⊢
  -- The offer is the only read, so it is the one that came to the accepting line.
  cases outcome with
  | line reply =>
    obtain ⟨hanswers, hlaunches⟩ := (hask.trans (t.passes_answerOffer reply)).of_since
    rw [takeReply, hanswers] at hmem
    obtain rfl : answer = reply := by simpa using hmem
    rw [takeReply, hlaunches, if_pos h, ← hkept]
    exact ⟨rfl, t.answerOffer_eq_emptyHistory_iff h⟩
  | _ =>
    simp only [takeReply] at hmem
    rw [hask.of_since.1] at hmem
    simp at hmem

/-- An interrupt reads one answer to the offer and nothing else. -/
theorem passes_interrupt (s : Session H) :
    ∃ outcome launches, s.Passes s.interrupt [(.offer, outcome)] launches := by
  obtain ⟨hask, -⟩ := passes_offer (s := s.clearPending) rfl
  rw [interrupt, s.clearPending.handleInterrupt_eq_takeReply rfl]
  generalize (s.clearPending.record .interrupting).sayAll
    (listing s.clearPending.history.entries) = l at *
  generalize (l.ask .offer).1 = outcome, (l.ask .offer).2 = t at *
  cases outcome with
  | line reply => exact ⟨_, _, hask.trans (t.passes_answerOffer reply)⟩
  | _ => exact ⟨_, _, hask⟩

/-- Answers to the offer are not recorded. -/
theorem recorded_eq_nil_of_answersOf {events : List Event}
    (h : ∀ answer ∈ answersOf events, answer.1 = .offer) : recorded events = [] := by
  refine recorded_eq_nil fun event he => ?_
  cases event with
  | answered prompt outcome =>
    obtain rfl : prompt = .offer := h (prompt, outcome) (mem_answersOf.2 he)
    rfl
  | _ => rfl

/-- While an interrupt is handled nothing is recorded. -/
theorem recorded_interrupt (s : Session H) : recorded (s.since s.interrupt) = [] := by
  obtain ⟨outcome, launches, h⟩ := s.passes_interrupt
  refine recorded_eq_nil_of_answersOf fun answer ha => ?_
  rw [h.of_since.1, List.mem_singleton] at ha
  rw [ha]

/-- The history is the same before and after an interrupt is handled. -/
theorem entries_interrupt (s : Session H) : s.interrupt.history.entries = s.history.entries := by
  have h := (s.path_interrupt true).entries_eq rfl rfl
  rwa [s.recorded_interrupt, List.append_nil, History.newest_entries] at h

/-- Whatever the file held, the host brings and the output takes: an interrupt whose offer is taken
after a line has been recorded launches the words of the program recorded last, in the foreground.
These are that program alone exactly when it holds nothing blank. A program that is blank launches
nothing, and the history counts as empty. -/
theorem repeat_launches_words (settings : Settings) (host : H) (console : Console)
    {t : Session H} (ht : Interruption (start settings host console) t) {program reply : String}
    (hprogram : (recorded ((start settings host console).since t)).getLast? = some program)
    (hreply : accepts reply = true)
    (hanswer : .answered .offer (.line reply) ∈ t.since t.handleInterrupt.2) :
    launchesOf (t.since t.handleInterrupt.2) =
        (if allBlank program.toList then []
          else [(.offer, Command.foreground (words program))]) ∧
      (t.handleInterrupt.1 = .emptyHistory ↔ allBlank program.toList = true) ∧
      (words program = [program] ↔ program.toList.any isBlank = false) := by
  obtain ⟨waited, u, hpath, rfl⟩ := ht.path
  obtain ⟨-, hrecounts⟩ := hpath.recounts
  have hentries := hrecounts.entries rfl
  have hnewest : u.clearPending.history.newest? = some program := by
    change u.history.entries.getLast? = some program
    rw [hentries, getLast?_newest (start settings host console).history.capacity_pos,
      List.getLast?_append]
    change ((recorded ((start settings host console).since u.clearPending)).getLast?.or _) = _
    rw [hprogram, Option.some_or]
  obtain ⟨hlaunches, hempty⟩ := u.clearPending.launchesOf_handleInterrupt hreply hanswer
  rw [candidate?_of_newest? hnewest] at hlaunches hempty
  refine ⟨?_, ?_, ?_⟩
  · rw [hlaunches]
    split
    · rfl
    · rfl
  · rw [hempty]
    split <;> simp_all
  · have hne := ne_empty_of_mem_recorded (List.mem_of_getLast? hprogram)
    rw [words_eq_singleton_iff]
    exact and_iff_right hne

/-- The interrupt after `ls -l` launches `ls`. -/
theorem repeat_launches_words_of_listing :
    let s := ofScript [⟨.line "ls -l", false⟩, ⟨.interrupted, false⟩, ⟨.line "r", false⟩] []
    let t := (s.turn.reached.2.settle.ask .command).2.clearPending
    Interruption s t ∧
      launchesOf (t.since t.handleInterrupt.2) = [(.offer, Command.foreground ["ls"])] := by
  intro s t
  have ht : Interruption s t :=
    .later (turn_eq_again (by decide +kernel)) (.cut (by decide +kernel))
  have hanswers : answersOf (t.since t.handleInterrupt.2) = [(.offer, .line "r")] := by
    decide +kernel
  have hanswer : .answered .offer (.line "r") ∈ t.since t.handleInterrupt.2 :=
    mem_answersOf.1 (by rw [hanswers]; exact List.mem_singleton_self _)
  have hprogram : (recorded (s.since t)).getLast? = some "ls" := by decide +kernel
  have h := (repeat_launches_words _ _ _ ht hprogram (by decide) hanswer).1
  refine ⟨ht, h.trans ?_⟩
  decide

/-- A vertical tab does not separate arguments, yet it separates the words of an entry: what the
interrupt launches is not the program alone. -/
theorem repeat_not_program_of_verticalTab :
    let s := ofScript [⟨.line "a\x0bb", false⟩, ⟨.interrupted, false⟩, ⟨.line "r", false⟩] []
    let t := (s.turn.reached.2.settle.ask .command).2.clearPending
    Interruption s t ∧ (recorded (s.since t)).getLast? = some "a\x0bb" ∧
      .answered .offer (.line "r") ∈ t.since t.handleInterrupt.2 ∧
      launchesOf (t.since t.handleInterrupt.2) ≠ [(.offer, Command.foreground ["a\x0bb"])] := by
  intro s t
  have hanswers : answersOf (t.since t.handleInterrupt.2) = [(.offer, .line "r")] := by
    decide +kernel
  refine ⟨.later (turn_eq_again (by decide +kernel)) (.cut (by decide +kernel)), by decide +kernel,
    mem_answersOf.1 ?_, by decide +kernel⟩
  rw [hanswers]
  exact List.mem_singleton_self _

end Session

end RecallShell
