import RecallShell.Proofs.Session.Attention
import RecallShell.Proofs.Session.Extension
import RecallShell.Proofs.Session.Outcome

/-!
# How often a session asks

At each stage a scripted session has a budget of questions that it may still ask, which its script
and the flag of interrupts settle. Every step pays for the questions that it asks, so no run asks
more than its script has reads, and two. Between two questions for a command, offers are made on
account of the read of the first one, if it was cut short, and on account of an interrupt that waits
then.
-/

namespace RecallShell

open Text

/-- What lines are asked for in some events, in order. -/
def promptsOf (events : List Event) : List Prompt := (questionsOf events).map Prod.fst

@[simp] theorem promptsOf_append (xs ys : List Event) :
    promptsOf (xs ++ ys) = promptsOf xs ++ promptsOf ys := by
  rw [promptsOf, questionsOf_append, List.map_append]
  rfl

theorem mem_promptsOf {events : List Event} {prompt : Prompt} :
    prompt ∈ promptsOf events ↔ ∃ view, .asked prompt view ∈ events := by
  simp only [promptsOf, questionsOf, List.mem_map, List.mem_filterMap]
  constructor
  · rintro ⟨question, ⟨event, he, hq⟩, rfl⟩
    cases event with
    | asked prompt view =>
      cases hq
      exact ⟨view, he⟩
    | _ => cases hq
  · rintro ⟨view, he⟩
    exact ⟨_, ⟨_, he, rfl⟩, rfl⟩

/-- A list is split where it holds an element of some kind. -/
theorem exists_eq_take_append_cons {α : Type} (p : α → Bool) (xs : List α) (i : Nat)
    (h : (xs[i]?).any p = true) : ∃ x, p x = true ∧ xs = xs.take i ++ x :: xs.drop (i + 1) := by
  cases hx : xs[i]? with
  | none =>
    rw [hx] at h
    cases h
  | some x =>
    rw [hx] at h
    obtain ⟨hi, rfl⟩ := List.getElem?_eq_some_iff.1 hx
    exact ⟨xs[i], h, by rw [← List.drop_eq_getElem_cons hi, List.take_append_drop]⟩

/-- Where elements of a kind come first in two equal lists, they come behind the same ones. -/
theorem append_cons_inj_of_forall {α : Type} {p : α → Prop} {xs xs' ys ys' : List α} {x x' : α}
    (h : xs ++ x :: ys = xs' ++ x' :: ys') (hxs : ∀ y ∈ xs, ¬p y) (hxs' : ∀ y ∈ xs', ¬p y)
    (hx : p x) (hx' : p x') : xs = xs' := by
  rcases append_eq_append_cons_cases h with ⟨rest, rfl, -⟩ | ⟨rest, rfl, hrest⟩
  · exact absurd hx' (hxs x' (by simp))
  · cases rest with
    | nil => exact (List.append_nil xs).symm
    | cons y rest =>
      obtain ⟨rfl, -⟩ := List.cons.inj hrest
      exact absurd hx (hxs' x (by simp))

/-- Behind an interrupt no offer is made at once. -/
theorem Stage.resumed_ne_offering (waited waited' : Bool) : resumed waited ≠ .offering waited' := by
  cases waited <;> simp [resumed]

namespace Session

section Budget

variable {H : Type}

/-- Listing the history clears the flag. -/
theorem pending_list (s : Session H) : s.list.console.pending = false := by
  obtain ⟨said, hc, hquiet⟩ := (s.clearPending.record .interrupting).calm_sayAll
    (Recall.listing s.history.entries)
  rw [list, hc.pending, hquiet]
  rfl

variable [Host H] [Host.Discreet H]

theorem Step.promptsOf_since {a b : Stage} {s t : Session H} (hs : Step a s b t) :
    promptsOf (s.since t) = a.prompt?.toList := by
  rw [promptsOf, hs.questionsOf_since]
  cases a.prompt? <;> rfl

/-- Each line that is asked for is read. -/
theorem Path.promptsOf_since {a b : Stage} {s t : Session H} (h : Path a s b t) :
    promptsOf (s.since t) = (answersOf (s.since t)).map Prod.fst := by
  induction h with
  | refl => simp [promptsOf, questionsOf, answersOf]
  | @step b t c u hpath hs ih =>
    rw [hpath.since_append hs.path, promptsOf_append, answersOf_append, List.map_append, ih,
      hs.promptsOf_since, hs.passes.of_since.1]
    cases b.prompt? <;> rfl

/-- What every step pays for out of what is left, a path pays for. -/
theorem Path.pays (cost : List Event → Nat) (left : Session H → Stage → Nat) (hnil : cost [] = 0)
    (happend : ∀ xs ys, cost (xs ++ ys) = cost xs + cost ys)
    (hstep : ∀ {a s b t}, Step a s b t → cost (s.since t) + left t b ≤ left s a)
    {a b : Stage} {s t : Session H} (h : Path a s b t) :
    cost (s.since t) + left t b ≤ left s a := by
  induction h with
  | refl => simp [hnil]
  | step hpath hs ih =>
    have hpaid := hstep hs
    rw [hpath.since_append hs.path, happend]
    omega

end Budget

variable {s t : Session Script} {a b : Stage}

/-- How many lines a session may still ask for as commands. -/
def commandsLeft (s : Session Script) : Stage → Nat
  | .heard .endOfStream | .over _ => 0
  | _ => s.host.reads.length + 1

/-- How many lines a session may still ask for. Behind the end of its script it makes an offer only
while an interrupt waits or is about to be handled. -/
def linesLeft (s : Session Script) : Stage → Nat
  | .heard .endOfStream | .over _ => 0
  | .prompting => if s.host.reads = [] then 1 else s.host.reads.length + 2
  | .polling =>
    if s.host.reads = [] ∧ s.console.pending = false then 1 else s.host.reads.length + 2
  | .offering _ => s.host.reads.length + 2 + s.console.pending.toNat
  | _ => s.host.reads.length + 2

/-- A read past the end of the script leaves the flag as it is. -/
theorem pending_ask_of_nil (h : s.host.reads = []) (prompt : Prompt) :
    (s.ask prompt).2.console.pending = s.console.pending := by
  rw [ask_of_nil h]
  rfl

/-- A stage other than an offer leaves two questions more than the script has reads at most. -/
theorem linesLeft_le (h : ∀ waited, a ≠ .offering waited) :
    s.linesLeft a ≤ s.host.reads.length + 2 := by
  cases a with
  | offering waited => exact absurd rfl (h waited)
  | heard outcome => cases outcome <;> simp [linesLeft]
  | prompting => simp only [linesLeft]; split <;> omega
  | polling => simp only [linesLeft]; split <;> omega
  | _ => simp [linesLeft]

theorem commandsLeft_le (s : Session Script) (a : Stage) :
    s.commandsLeft a ≤ s.host.reads.length + 1 := by
  unfold commandsLeft
  split <;> omega

/-- Each step pays for the line that it asks for. -/
theorem Step.pays_line (hs : Step a s b t) :
    (promptsOf (s.since t)).length + t.linesLeft b ≤ s.linesLeft a := by
  rw [hs.promptsOf_since]
  have hreads := hs.reads_eq
  -- Most steps ask for nothing and leave the script alone, so that their stages decide.
  have hfree : a.prompt? = none → s.linesLeft a = s.host.reads.length + 2 →
      (∀ waited, b ≠ .offering waited) →
      a.prompt?.toList.length + t.linesLeft b ≤ s.linesLeft a := by
    intro hprompt hleft hb
    have hle := linesLeft_le (s := t) hb
    rw [hprompt] at hreads ⊢
    change t.host.reads = s.host.reads at hreads
    rw [hleft, ← hreads]
    exact Nat.le_trans (Nat.le_of_eq (Nat.zero_add _)) hle
  cases hs with
  | idle hp => simp [Stage.prompt?, linesLeft, hp]
  | notice hp => simp [Stage.prompt?, linesLeft, hp]
  | list =>
    rw [linesLeft, hreads, pending_list]
    exact Nat.le_of_eq (Nat.zero_add _)
  | @answer _ _ answer h =>
    have hpos : s.host.reads ≠ [] := by
      intro hnil
      rw [ask_of_nil hnil] at h
      cases h
    have hlength := List.length_pos_iff.2 hpos
    simp [Stage.prompt?, linesLeft, reads_ask]
    omega
  | @silence waited =>
    by_cases hnil : s.host.reads = []
    · -- The script is used up: another offer can only come of an interrupt that waits already.
      have hpending := pending_ask_of_nil hnil .offer
      have hused := s.reads_ask .offer
      cases waited <;> cases hflag : s.console.pending <;>
        simp_all [Stage.prompt?, Stage.resumed, linesLeft]
    · have hlength := List.length_pos_iff.2 hnil
      have hle := linesLeft_le (s := (s.ask .offer).2) (Stage.resumed_ne_offering waited)
      rw [reads_ask, List.length_tail] at hle
      change 1 + _ ≤ s.host.reads.length + 2 + s.console.pending.toNat
      omega
  | hear =>
    by_cases hnil : s.host.reads = []
    · simp [ask_of_nil hnil, Stage.prompt?, linesLeft, hnil]
    · have hlength := List.length_pos_iff.2 hnil
      have hle := linesLeft_le (s := (s.ask .command).2) (a := .heard (s.ask .command).1) (by simp)
      have hleft : s.linesLeft .prompting = s.host.reads.length + 2 := if_neg hnil
      rw [reads_ask, List.length_tail] at hle
      rw [hleft]
      change 1 + _ ≤ s.host.reads.length + 2
      omega
  | finish => exact Nat.le_refl _
  | fail | fatal => exact Nat.zero_le _
  | decline | nothing | again | againFailed => exact hfree rfl rfl (Stage.resumed_ne_offering _)
  | _ => exact hfree rfl rfl (by simp)

/-- Each step pays for the command that it asks for. -/
theorem Step.pays_command (hs : Step a s b t) :
    (promptsOf (s.since t)).count .command + t.commandsLeft b ≤ s.commandsLeft a := by
  rw [hs.promptsOf_since]
  have hle := t.commandsLeft_le b
  rw [hs.reads_eq] at hle
  cases hs with
  | hear =>
    by_cases hnil : s.host.reads = []
    · simp [ask_of_nil hnil, Stage.prompt?, commandsLeft]
    · have hlength := List.length_pos_iff.2 hnil
      change _ ≤ s.host.reads.tail.length + 1 at hle
      rw [List.length_tail] at hle
      change 1 + _ ≤ s.host.reads.length + 1
      omega
  | answer | silence =>
    change _ ≤ s.host.reads.tail.length + 1 at hle
    rw [List.length_tail] at hle
    change 0 + _ ≤ s.host.reads.length + 1
    omega
  | finish => exact Nat.le_refl _
  | fail | fatal => exact Nat.zero_le _
  | _ => exact Nat.le_trans (Nat.le_of_eq (Nat.zero_add _)) hle

/-! ## Offers between two commands -/

section Between

variable {H : Type} [Host H] [Host.Discreet H]

/-- The launch of an entry is part of the handling, with what is said of it. -/
theorem handles_repeatEntry (s : Session H) (entry : String) :
    s.Handles (s.repeatEntry entry).2 := by
  obtain ⟨_, hsaid, -⟩ := s.calm_say (Recall.announcement entry)
  have hlaunch : s.Handles
      ((s.say (Recall.announcement entry)).launch .offer (Command.ofEntry entry)).2 :=
    (Handles.of_calm hsaid).trans ((s.say (Recall.announcement entry)).handles_launch _)
  unfold repeatEntry
  split
  · rename_i hl
    rwa [hl] at hlaunch
  · rename_i e t hl
    rw [hl] at hlaunch
    obtain ⟨_, hfail⟩ := t.calm_warn_say (Recall.failureWarning entry e) (Recall.failureLine e)
    exact hlaunch.trans (.of_calm hfail)

/-- So is all that comes of the read at an offer. -/
theorem handles_takeReply (s : Session H) (outcome : ReadOutcome) :
    s.Handles (s.takeReply outcome).2 := by
  have hnothing : s.Handles s := ⟨[], (List.append_nil _).symm, by simp⟩
  cases outcome with
  | line answer =>
    change s.Handles (s.answerOffer answer).2
    unfold answerOffer
    split
    · split
      · exact s.handles_repeatEntry _
      · obtain ⟨_, hsaid, -⟩ := s.calm_say Recall.nothingToRepeat
        exact .of_calm hsaid
    · exact hnothing
  | _ => exact hnothing

/-- What comes about when an interrupt is handled is the handling of one interrupt. -/
theorem handled_interrupt (s : Session H) : Handled (s.since s.interrupt) := by
  obtain ⟨said, hsaid, hlist⟩ := s.calm_list
  obtain ⟨new, hlog, hnew⟩ := s.list.handles_ask.trans (handles_takeReply _ (s.list.ask .offer).1)
  rw [interrupt, s.clearPending.handleInterrupt_eq_takeReply (t := s.list) rfl]
  refine ⟨said ++ new, since_eq ?_, fun event he => ?_⟩
  · rw [hlog, hlist, List.append_assoc, List.cons_append]
  · rcases List.mem_append.1 he with hs | hn
    · exact Event.isOfHandling_of_isAmbient (hsaid.ambient event hs)
    · exact hnew event hn

/-- When an interrupt is handled one offer is made. -/
theorem promptsOf_interrupt (s : Session H) : promptsOf (s.since s.interrupt) = [.offer] := by
  obtain ⟨outcome, launches, h⟩ := s.passes_interrupt
  rw [(s.path_interrupt true).promptsOf_since, h.of_since.1]
  rfl

/-- Before a command is asked for one offer is made if an interrupt waits. -/
theorem promptsOf_settle (s : Session H) :
    promptsOf (s.since s.settle) = if s.console.pending then [.offer] else [] := by
  unfold settle
  split
  · exact s.promptsOf_interrupt
  · rw [since_self]
    rfl

/-- Nothing is asked for on account of a line. -/
theorem promptsOf_execute (s : Session H) (line : String) :
    promptsOf (s.since (s.execute line).2) = [] := by
  simp only [execute]
  split
  · rw [since_self]
    rfl
  · rename_i program hp
    have hadd := Step.remember (s := s) hp
    have hkeep : Step (.keeping program (Command.parse line)) (s.remember program)
        (.launching program (Command.parse line)) (s.remember program).keep := .keep
    have hlaunch := (s.remember program).keep.step_launchMain program (Command.parse line)
    rw [(hadd.path.step hkeep).since_append hlaunch.path, hadd.path.since_append hkeep.path,
      promptsOf_append, promptsOf_append, hadd.promptsOf_since, hkeep.promptsOf_since,
      hlaunch.promptsOf_since]
    rfl

/-- Behind the read of a command one offer is made if it was cut short. -/
theorem promptsOf_proceed (s : Session H) (outcome : ReadOutcome) :
    promptsOf (s.since (s.proceed outcome).reached.2) =
      if outcome = .interrupted then [.offer] else [] := by
  cases outcome with
  | line line =>
    have h := s.promptsOf_execute line
    simp only [proceed]
    split <;> rename_i he <;> rw [he] at h <;> exact h
  | interrupted => exact s.promptsOf_interrupt
  | endOfStream => exact (Step.finish (s := s)).promptsOf_since
  | failed cause =>
    change promptsOf (s.since s) = _
    rw [since_self]
    rfl

/-- No event asks for a command. -/
theorem not_asked_of_not_mem {events : List Event} (h : .command ∉ promptsOf events) :
    ∀ event ∈ events, ¬∃ view, event = .asked .command view := by
  rintro event he ⟨view, rfl⟩
  exact h (mem_promptsOf.2 ⟨view, he⟩)

/-- The run goes on from where a command is asked for with that question. -/
theorem Path.asks_command {t u : Session H} {result : Except ShellError Int}
    (h : Path .prompting t (.over result) u) :
    ∃ rest, t.since u = .asked .command t.view :: rest := by
  rcases h.eq_or_step with ⟨hover, -⟩ | ⟨_, _, hs, hrest⟩
  · cases hover
  · obtain ⟨rfl, rfl⟩ := hs.unique .hear
    obtain ⟨ambient, -, hlog⟩ := t.log_ask .command
    rw [hs.path.since_append hrest, since_eq hlog]
    exact ⟨_, rfl⟩

/-- A session that asks for a command once more behind the read of one has dealt with what the read
came to, and with an interrupt if one waited then. -/
theorem Path.exists_proceed {t u : Session H} {outcome : ReadOutcome}
    {result : Except ShellError Int} {between after : List Event} {view : View}
    (h : Path (.heard outcome) t (.over result) u)
    (hsince : t.since u = between ++ .asked .command view :: after)
    (hnone : .command ∉ promptsOf between) :
    ∃ v, t.proceed outcome = .again v ∧ between = t.since v ++ v.since v.settle := by
  have hpath := t.path_proceed outcome
  have hasked := t.promptsOf_proceed outcome
  have hoffers : .command ∉ if outcome = .interrupted then [Prompt.offer] else [] := by
    split <;> simp
  rw [← hasked] at hoffers
  cases hp : t.proceed outcome with
  | ended result' w =>
    -- A session that has ended does not ask for another command.
    rw [hp] at hpath hoffers
    have hw : u = w := by
      rcases hpath.total h with hon | hback
      · exact hon.eq_of_over.2
      · exact hback.eq_of_over.2.symm
    subst hw
    exact absurd (mem_promptsOf.2 ⟨view, by simp [Turn.reached, hsince]⟩) hoffers
  | again v =>
    rw [hp] at hpath hoffers
    have hturn : Path (.heard outcome) t .prompting v.settle := hpath.trans v.path_settle
    have hbetween : t.since v.settle = t.since v ++ v.since v.settle :=
      hpath.since_append v.path_settle
    have hnothing : .command ∉ promptsOf (t.since v.settle) := by
      rw [hbetween, promptsOf_append, promptsOf_settle, List.mem_append]
      rintro (hfirst | hsecond)
      · exact hoffers hfirst
      · split at hsecond <;> simp at hsecond
    refine ⟨v, rfl, ?_⟩
    rcases hturn.total h with hrest | hback
    · obtain ⟨rest, hnext⟩ := hrest.asks_command
      rw [hturn.since_append hrest, hnext] at hsince
      rw [← hbetween]
      exact append_cons_inj_of_forall hsince.symm (not_asked_of_not_mem hnone)
        (not_asked_of_not_mem hnothing) ⟨view, rfl⟩ ⟨_, rfl⟩
    · cases hback.eq_of_over.1

/-- The read of a command ends with the step that hears what it has come to. -/
theorem Step.of_answered_command {a b : Stage} {t u : Session H} {outcome : ReadOutcome}
    {xs ys : List Event} (hs : Step a t b u)
    (hsince : t.since u = xs ++ .answered .command outcome :: ys) :
    a = .prompting ∧ b = .heard outcome ∧ ys = [] := by
  have hread : (.command, outcome) ∈ answersOf (t.since u) :=
    mem_answersOf.2 (by simp [hsince])
  rw [hs.passes.of_since.1] at hread
  obtain rfl : a = .prompting := by
    cases a <;> first | rfl | simp [Stage.prompt?] at hread
  obtain ⟨rfl, rfl⟩ := hs.unique .hear
  obtain ⟨ambient, hambient, hlog⟩ := t.log_ask .command
  rw [since_eq hlog] at hsince
  obtain ⟨hlast, rfl⟩ := last_of_framed hsince (by simp) fun hc => by cases hambient _ hc
  exact ⟨rfl, congrArg Stage.heard (Event.answered.inj hlast).2, rfl⟩

end Between

/-- Between the read of a command and the next question for one at most two offers are made. They
are two only if the read was cut short and a signal came while the interrupt that it had begun was
being handled. -/
theorem offers_between {H : Type} [Host H] [Host.Heedful H] (s : Session H)
    {before between after : List Event} {outcome : ReadOutcome} {view : View}
    (he : s.events = before ++ .answered .command outcome ::
      (between ++ .asked .command view :: after))
    (hnone : .command ∉ promptsOf between) :
    (promptsOf between).count .offer ≤ 2 ∧
      ((promptsOf between).count .offer = 2 → outcome = .interrupted ∧
        ∃ first second, between = first ++ second ∧ Handled first ∧ Handled second ∧
          .signaled ∈ first) := by
  obtain ⟨a, t, b, u, xs, ys, hpath, hs, hrest, hsince, hbefore⟩ := s.path_run.exists_step he
  obtain ⟨rfl, rfl, rfl⟩ := hs.of_answered_command hsince
  have hu : Path .polling s (.heard outcome) u := hpath.step hs
  have hsu : s.since u = before ++ [.answered .command outcome] := by
    rw [hpath.since_append hs.path, hsince, hbefore, List.append_assoc]
  have hafter : u.since s.run.2 = between ++ .asked .command view :: after := by
    rw [hu.events_eq, hsu, List.append_assoc] at he
    exact (List.cons.inj (List.append_cancel_left he)).2
  obtain ⟨v, hproceed, rfl⟩ := hrest.exists_proceed hafter hnone
  have hv : Path (.heard outcome) u .polling v := by
    have h := u.path_proceed outcome
    rwa [hproceed] at h
  have hasked := u.promptsOf_proceed outcome
  rw [hproceed] at hasked
  rw [promptsOf_append, show promptsOf (u.since v) = _ from hasked, promptsOf_settle]
  constructor
  · split <;> split <;> decide
  · intro hcount
    have hboth : outcome = .interrupted ∧ v.console.pending = true := by
      split at hcount <;> split at hcount <;> simp_all
    obtain ⟨rfl, hpending⟩ := hboth
    obtain rfl : u.interrupt = v := Turn.again.inj hproceed
    have hfirst := u.handled_interrupt
    have hflag := (hu.trans hv).watches.flag
    rw [hpending, hu.since_append hv] at hflag
    refine ⟨rfl, _, _, rfl, hfirst, ?_, hfirst.waits_iff.1 hflag.symm⟩
    rw [settle, if_pos hpending]
    exact u.interrupt.handled_interrupt

/-- However the interrupts come, a session with a script comes to its end, and each line that it
asks for is read. It asks for two lines more than its script has reads at most, and for one command
more at most. Between two commands it makes two offers at most, and two only if the read of the
first one was cut short and a signal came while the interrupt that it had begun was being
handled. -/
theorem asks_within_budget (settings : Settings) (script : Script) (console : Console) :
    let s := start settings script console
    Path .polling s (.over s.run.1) s.run.2 ∧
      (answersOf s.events).map Prod.fst = promptsOf s.events ∧
      (promptsOf s.events).length ≤ script.reads.length + 2 ∧
      (promptsOf s.events).count .command ≤ script.reads.length + 1 ∧
      ∀ before outcome between view after,
        s.events = before ++ .answered .command outcome ::
          (between ++ .asked .command view :: after) →
        .command ∉ promptsOf between →
        (promptsOf between).count .offer ≤ 2 ∧
          ((promptsOf between).count .offer = 2 → outcome = .interrupted ∧
            ∃ first second, between = first ++ second ∧ Handled first ∧ Handled second ∧
              .signaled ∈ first) := by
  intro s
  have hreads : s.host.reads = script.reads :=
    congrArg Script.reads (host_start settings script console)
  have hlines := s.path_run.pays (fun events => (promptsOf events).length) linesLeft rfl
    (by simp) Step.pays_line
  have hcommands := s.path_run.pays (fun events => (promptsOf events).count .command) commandsLeft
    rfl (by simp) Step.pays_command
  have hleft := linesLeft_le (s := s) (a := .polling) (by simp)
  have hleft' := s.commandsLeft_le .polling
  rw [hreads] at hleft hleft'
  have hread : promptsOf s.events = (answersOf s.events).map Prod.fst :=
    s.path_run.promptsOf_since
  refine ⟨s.path_run, hread.symm, ?_, ?_, ?_⟩
  · exact Nat.le_trans (Nat.le_of_add_right_le hlines) hleft
  · exact Nat.le_trans (Nat.le_of_add_right_le hcommands) hleft'
  · intro before outcome between view after he hnone
    exact s.offers_between he hnone

/-- A read is cut short and a signal comes along with it, and another one with the answer to the
offer at which the script ends: between the two commands asked for two offers are made. -/
theorem asks_within_budget_of_cut :
    let s := ofScript [⟨.interrupted, true⟩, ⟨.line "n", true⟩] []
    (promptsOf s.events).length = 2 + 2 ∧
      ∃ before between view after, s.events = before ++ .answered .command .interrupted ::
          (between ++ .asked .command view :: after) ∧
        (promptsOf between).count .offer = 2 ∧
        ∃ first second, between = first ++ second ∧ Handled first ∧ Handled second ∧
          .signaled ∈ first := by
  intro s
  obtain ⟨cut, hcut, hevents⟩ :=
    exists_eq_take_append_cons Event.isCut s.events 2 (by decide +kernel)
  obtain ⟨next, hnext, hrest⟩ :=
    exists_eq_take_append_cons (fun event => event.question? == some (.command, false))
      (s.events.drop 3) 13 (by decide +kernel)
  have hasked : promptsOf s.events = [.command, .offer, .offer, .command] := by decide +kernel
  have hbetween : promptsOf ((s.events.drop 3).take 13) = [.offer, .offer] := by decide +kernel
  obtain rfl : cut = .answered .command .interrupted := by
    unfold Event.isCut at hcut
    split at hcut
    · rfl
    · cases hcut
  obtain ⟨view, rfl⟩ : ∃ view, next = .asked .command view := by
    cases next with
    | asked prompt view =>
      obtain ⟨rfl, -⟩ := Prod.mk.inj (Option.some.inj (eq_of_beq hnext))
      exact ⟨view, rfl⟩
    | _ => cases eq_of_beq hnext
  rw [hrest] at hevents
  have hbound := (asks_within_budget _ _ _).2.2.2.2 _ _ _ _ _ hevents (by simp [hbetween])
  refine ⟨by rw [hasked]; rfl, _, _, view, _, hevents, ?_, (hbound.2 ?_).2⟩ <;>
    rw [hbetween] <;> rfl

end Session

end RecallShell
