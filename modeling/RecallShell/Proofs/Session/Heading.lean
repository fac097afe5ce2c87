import RecallShell.Proofs.Session.Repeat

/-!
# What a step begins with

A step that has an interrupt handled, asks for something or launches something notes that first,
with the session as it then stands. Nothing else in a run is of this kind, so the questions and the
launches of a run are those of its steps.
-/

namespace RecallShell

/-- Whether an event stands at the beginning of a step: the handling of an interrupt, a question or
a launch begins. -/
def Event.isHeading : Event → Bool
  | .interrupting | .asked .. | .launching .. => true
  | _ => false

/-- Ambient events begin no step. -/
theorem Event.isHeading_of_isAmbient {event : Event} (h : event.isAmbient = true) :
    event.isHeading = false := by
  cases event <;> first | rfl | simp [Event.isAmbient] at h

/-- What an event asks for, with whether an interrupt waits. -/
def Event.question? : Event → Option (Prompt × Bool)
  | .asked prompt view => some (prompt, view.pending)
  | _ => none

/-- What is asked for in some events, in order, each time with whether an interrupt waits. -/
def questionsOf (events : List Event) : List (Prompt × Bool) := events.filterMap Event.question?

@[simp] theorem questionsOf_append (xs ys : List Event) :
    questionsOf (xs ++ ys) = questionsOf xs ++ questionsOf ys := List.filterMap_append

/-- Events that begin no step ask for nothing, launch nothing and do not look at the session. -/
theorem Event.of_not_isHeading {event : Event} (h : event.isHeading = false) :
    event.question? = none ∧ event.launch? = none ∧ event.view? = none := by
  cases event <;> first | exact ⟨rfl, rfl, rfl⟩ | cases h

/-- What is asked for at a stage. -/
def Stage.prompt? : Stage → Option Prompt
  | .offering _ => some .offer
  | .prompting => some .command
  | _ => none

/-- What is launched at a stage, and on account of which read. -/
def Stage.launch? : Stage → Option (Prompt × Command)
  | .repeating _ entry => some (.offer, Command.ofEntry entry)
  | .launching _ command => some (.command, command)
  | _ => none

namespace Session

variable {H : Type}

/-- What a session notes at a stage before anything else. -/
def heading (s : Session H) : Stage → List Event
  | .handling _ => [.interrupting]
  | .offering _ => [.asked .offer s.view]
  | .prompting => [.asked .command s.view]
  | .repeating _ entry => [.launching .offer (Command.ofEntry entry) s.view]
  | .launching _ command => [.launching .command command s.view]
  | _ => []

/-- Up to a later moment a session has noted what it notes first at a stage, and nothing of that
kind behind it. -/
def Heads (s t : Session H) (a : Stage) : Prop :=
  ∃ rest, t.console.log = s.console.log ++ (s.heading a ++ rest) ∧
    ∀ event ∈ rest, event.isHeading = false

/-- A session that has nothing to note first may note nothing at all. -/
theorem Heads.of_log_eq {s t : Session H} {a : Stage} (ha : s.heading a = [])
    (ht : t.console.log = s.console.log) : s.Heads t a :=
  ⟨[], by simp [ha, ht], by simp⟩

/-- Ambient events come behind what is noted first. -/
theorem Heads.of_ambient {s t : Session H} {a : Stage} {said : List Event}
    (ht : t.console.log = s.console.log ++ (s.heading a ++ said))
    (hsaid : ∀ event ∈ said, event.isAmbient = true) : s.Heads t a :=
  ⟨said, ht, fun event he => Event.isHeading_of_isAmbient (hsaid event he)⟩

/-- What comes later is not of that kind either. -/
theorem Heads.append {s t u : Session H} {a : Stage} {later : List Event} (h : s.Heads t a)
    (hu : u.console.log = t.console.log ++ later)
    (hlater : ∀ event ∈ later, event.isHeading = false) : s.Heads u a := by
  obtain ⟨rest, hlog, hrest⟩ := h
  refine ⟨rest ++ later, by rw [hu, hlog]; simp, ?_⟩
  intro event he
  rcases List.mem_append.1 he with hr | hl
  · exact hrest event hr
  · exact hlater event hl

/-- A complaint is noted. -/
theorem log_complain (s : Session H) (text : String) :
    (s.complain text).console.log = s.console.log ++ [.complained text] := rfl

variable [Host H] [Host.Discreet H]

/-- A read begins with its question. -/
theorem heads_ask {s : Session H} {a : Stage} {prompt : Prompt}
    (ha : s.heading a = [.asked prompt s.view]) : s.Heads (s.ask prompt).2 a := by
  obtain ⟨ambient, hambient, hask⟩ := s.log_ask prompt
  refine ⟨ambient ++ [.answered prompt (s.ask prompt).1], by simp [hask, ha], ?_⟩
  intro event he
  rcases List.mem_append.1 he with hamb | hl
  · exact Event.isHeading_of_isAmbient (hambient event hamb)
  · rw [List.mem_singleton.1 hl]
    rfl

/-- A launch begins with its command. -/
theorem heads_launch {s : Session H} {a : Stage} {prompt : Prompt} {command : Command}
    (ha : s.heading a = [.launching prompt command s.view]) :
    s.Heads (s.launch prompt command).2 a := by
  obtain ⟨ambient, hambient, hlaunch⟩ := s.log_launch prompt command
  refine ⟨ambient ++ [.launched prompt command (s.launch prompt command).1],
    by simp [hlaunch, ha], ?_⟩
  intro event he
  rcases List.mem_append.1 he with hamb | hl
  · exact Event.isHeading_of_isAmbient (hambient event hamb)
  · rw [List.mem_singleton.1 hl]
    rfl

/-- Each step notes first what it does at its stage, and nothing of that kind behind it. -/
theorem Step.heads {a b : Stage} {s t : Session H} (hs : Step a s b t) : s.Heads t a := by
  cases hs with
  | idle => exact .of_log_eq rfl rfl
  | notice => exact .of_log_eq rfl rfl
  | list =>
    obtain ⟨said, hc, hlist⟩ := s.calm_list
    exact .of_ambient hlist hc.ambient
  | answer => exact heads_ask rfl
  | silence => exact heads_ask rfl
  | decline => exact .of_log_eq rfl rfl
  | nothing =>
    obtain ⟨said, hc, -⟩ := s.calm_say Recall.nothingToRepeat
    exact .of_ambient hc.log hc.ambient
  | @accept _ _ _ entry =>
    obtain ⟨said, hc, -⟩ := s.calm_say (Recall.announcement entry)
    exact .of_ambient hc.log hc.ambient
  | again => exact heads_launch rfl
  | @againFailed _ _ entry e =>
    obtain ⟨said, hc⟩ := (s.launch .offer (Command.ofEntry entry)).2.calm_warn_say
      (Recall.failureWarning entry e) (Recall.failureLine e)
    exact (heads_launch rfl).append hc.log
      fun event he => Event.isHeading_of_isAmbient (hc.ambient event he)
  | hear => exact heads_ask rfl
  | blank => exact .of_log_eq rfl rfl
  | remember => exact .of_log_eq rfl rfl
  | cut => exact .of_log_eq rfl rfl
  | finish =>
    obtain ⟨said, hc, -⟩ := s.console.calm_flush
    exact .of_ambient hc.log hc.ambient
  | fail => exact .of_log_eq rfl rfl
  | keep =>
    rcases s.log_keep with hkeep | ⟨e, hkeep⟩
    · exact ⟨_, hkeep, by simp [Event.isHeading]⟩
    · exact ⟨_, hkeep, by simp [Event.isHeading]⟩
  | launched => exact heads_launch rfl
  | @complain _ program command e =>
    exact (heads_launch rfl).append ((s.launch .command command).2.log_complain _)
      (by simp [Event.isHeading])
  | fatal => exact heads_launch rfl

/-- What a step asks for is what is asked for at its stage. -/
theorem Step.questionsOf_since {a b : Stage} {s t : Session H} (hs : Step a s b t) :
    questionsOf (s.since t) =
      a.prompt?.toList.map fun prompt => (prompt, s.console.pending) := by
  obtain ⟨rest, hlog, hrest⟩ := hs.heads
  have hnone : questionsOf rest = [] :=
    List.filterMap_eq_nil_iff.2 fun event he => (Event.of_not_isHeading (hrest event he)).1
  rw [since_eq hlog, questionsOf_append, hnone, List.append_nil]
  cases a <;> rfl

/-- A step reads an answer where something is asked for and launches what is launched at its stage,
and otherwise it neither reads nor launches. -/
theorem Step.passes {a b : Stage} {s t : Session H} (hs : Step a s b t) :
    s.Passes t (a.prompt?.toList.map fun prompt => (prompt, (s.ask prompt).1))
      a.launch?.toList := by
  have hquiet : t.console.log = s.console.log → s.Passes t [] [] :=
    fun ht => ⟨[], by rw [ht, List.append_nil], rfl, rfl⟩
  cases hs with
  | idle => exact hquiet rfl
  | notice => exact hquiet rfl
  | list =>
    obtain ⟨said, hc, hlist⟩ := s.calm_list
    have hanswers : answersOf said = [] := answersOf_ambient hc.ambient
    have hlaunches : launchesOf said = [] := launchesOf_ambient hc.ambient
    exact ⟨_, hlist, hanswers, hlaunches⟩
  | answer => exact s.passes_ask .offer
  | silence => exact s.passes_ask .offer
  | decline => exact hquiet rfl
  | nothing =>
    obtain ⟨_, hc, -⟩ := s.calm_say Recall.nothingToRepeat
    exact .of_calm hc
  | @accept _ _ _ entry =>
    obtain ⟨_, hc, -⟩ := s.calm_say (Recall.announcement entry)
    exact .of_calm hc
  | again => exact s.passes_launch _ _
  | @againFailed _ _ entry e =>
    obtain ⟨_, hc⟩ := (s.launch .offer (Command.ofEntry entry)).2.calm_warn_say
      (Recall.failureWarning entry e) (Recall.failureLine e)
    exact (s.passes_launch _ _).trans (.of_calm hc)
  | hear => exact s.passes_ask .command
  | blank => exact hquiet rfl
  | remember => exact hquiet rfl
  | cut => exact hquiet rfl
  | finish =>
    obtain ⟨_, hc, -⟩ := s.console.calm_flush
    exact .of_calm (t := s.finish) hc
  | fail => exact hquiet rfl
  | keep =>
    rcases s.log_keep with hkeep | ⟨e, hkeep⟩
    · exact ⟨_, hkeep, rfl, rfl⟩
    · exact ⟨_, hkeep, rfl, rfl⟩
  | launched => exact s.passes_launch _ _
  | @complain _ program command e =>
    exact (s.passes_launch .command command).trans ⟨_, log_complain _ _, rfl, rfl⟩
  | fatal => exact s.passes_launch _ _

/-- What a step launches is what is launched at its stage. -/
theorem Step.launchesOf_since {a b : Stage} {s t : Session H} (hs : Step a s b t) :
    launchesOf (s.since t) = a.launch?.toList :=
  hs.passes.of_since.2

/-- A step looks at the session only at its beginning, where it asks for something or launches
something. -/
theorem Step.looksOnce {a b : Stage} {s t : Session H} (hs : Step a s b t) :
    Throughout (fun before event => ∀ view, event.view? = some view →
      before = [] ∧ view = s.view ∧ (a.prompt?.isSome || a.launch?.isSome) = true) (s.since t) := by
  obtain ⟨rest, hlog, hrest⟩ := hs.heads
  rw [since_eq hlog, throughout_append]
  refine ⟨?_, throughout_of_forall fun event he before view hv => ?_⟩
  · cases a <;>
      simp [heading, throughout_nil, throughout_cons, Event.view?, Stage.prompt?, Stage.launch?]
  · rw [(Event.of_not_isHeading (hrest event he)).2.2] at hv
    cases hv

end Session

end RecallShell
