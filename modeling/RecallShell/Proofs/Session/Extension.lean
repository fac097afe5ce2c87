import RecallShell.Proofs.Session.Alike

/-!
# Further reads

A scripted session does not notice further reads at the end of its script before it reads past that
end. So a session that comes to the end of its script where it asks for a command comes there with
further reads, too; without them it ends there, and neither says nor launches anything more.
-/

namespace RecallShell

namespace Session

/-- The session with further reads at the end of its script. -/
def extend (s : Session Script) (more : List ScriptedRead) : Session Script :=
  { s with host := { s.host with reads := s.host.reads ++ more } }

variable {s t u : Session Script} {a b c : Stage} {more : List ScriptedRead}

/-- A read that the script holds is the same with further reads behind it. -/
theorem ask_extend (more : List ScriptedRead) (h : s.host.reads ≠ []) (prompt : Prompt) :
    ((s.extend more).ask prompt).1 = (s.ask prompt).1 ∧
      ((s.extend more).ask prompt).2 = (s.ask prompt).2.extend more := by
  obtain ⟨item, rest, hreads⟩ := List.exists_cons_of_ne_nil h
  have hextended : (s.extend more).host.reads = item :: (rest ++ more) := by
    rw [extend, hreads, List.cons_append]
  rw [ask_of_cons hreads, ask_of_cons hextended]
  exact ⟨rfl, rfl⟩

/-- A launch has nothing to do with the reads. -/
theorem launch_extend (s : Session Script) (more : List ScriptedRead) (prompt : Prompt)
    (command : Command) :
    ((s.extend more).launch prompt command).1 = (s.launch prompt command).1 ∧
      ((s.extend more).launch prompt command).2 = (s.launch prompt command).2.extend more := by
  cases hlaunches : s.host.launches with
  | nil =>
    have hextended : (s.extend more).host.launches = [] := hlaunches
    rw [launch_of_nil hlaunches, launch_of_nil hextended]
    exact ⟨rfl, rfl⟩
  | cons item rest =>
    have hextended : (s.extend more).host.launches = item :: rest := hlaunches
    rw [launch_of_cons hlaunches, launch_of_cons hextended]
    exact ⟨rfl, rfl⟩

theorem sayAll_extend (lines : List String) :
    (s.extend more).sayAll lines = (s.sayAll lines).extend more := by
  induction lines generalizing s with
  | nil => rfl
  | cons line lines ih => exact ih (s := s.say line)

theorem list_extend : (s.extend more).list = s.list.extend more :=
  sayAll_extend (s := s.clearPending.record .interrupting) _

theorem keep_extend : (s.extend more).keep = s.keep.extend more := by
  rcases hsave : s.history.save s.path s.console.disk with ⟨_ | e, disk⟩
  · rw [keep_of_error hsave, keep_of_error (s := s.extend more) hsave]
    rfl
  · rw [keep_of_ok hsave, keep_of_ok (s := s.extend more) hsave]
    rfl

/-- A step that does not read past the end of the script is the same with further reads. -/
theorem Step.extend (hs : Step a s b t) (h : a.prompt?.isSome → s.host.reads ≠ []) :
    Step a (s.extend more) b (t.extend more) := by
  cases hs with
  | idle hp => exact .idle hp
  | notice hp => exact .notice hp
  | list =>
    rw [← list_extend]
    exact .list
  | answer ha =>
    obtain ⟨houtcome, hsession⟩ := ask_extend more (h rfl) .offer
    rw [← hsession]
    exact .answer (houtcome.trans ha)
  | silence ha =>
    obtain ⟨houtcome, hsession⟩ := ask_extend more (h rfl) .offer
    rw [← hsession]
    exact .silence fun answer => houtcome ▸ ha answer
  | decline ha => exact .decline ha
  | nothing ha hc => exact Step.nothing (s := s.extend more) ha hc
  | accept ha hc => exact Step.accept (s := s.extend more) ha hc
  | @again _ _ entry _ hl =>
    obtain ⟨hresult, hsession⟩ := s.launch_extend more .offer (Command.ofEntry entry)
    rw [← hsession]
    exact .again (hresult.trans hl)
  | @againFailed waited _ entry e hl =>
    obtain ⟨hresult, hsession⟩ := s.launch_extend more .offer (Command.ofEntry entry)
    have hstep : Step (.repeating waited entry) (s.extend more) (.resumed waited) _ :=
      .againFailed (hresult.trans hl)
    rwa [hsession] at hstep
  | hear =>
    obtain ⟨houtcome, hsession⟩ := ask_extend more (h rfl) .command
    rw [← hsession, ← houtcome]
    exact .hear
  | blank hp => exact .blank hp
  | remember hp => exact Step.remember (s := s.extend more) hp
  | cut => exact .cut
  | finish => exact Step.finish (s := s.extend more)
  | fail => exact .fail
  | keep =>
    rw [← keep_extend]
    exact .keep
  | @launched _ _ command _ hl =>
    obtain ⟨hresult, hsession⟩ := s.launch_extend more .command command
    rw [← hsession]
    exact .launched (hresult.trans hl)
  | @complain _ program command e hl hf =>
    obtain ⟨hresult, hsession⟩ := s.launch_extend more .command command
    have hstep : Step (.launching program command) (s.extend more) .polling _ :=
      .complain (hresult.trans hl) hf
    rwa [hsession] at hstep
  | @fatal _ _ command _ hl hf =>
    obtain ⟨hresult, hsession⟩ := s.launch_extend more .command command
    rw [← hsession]
    exact .fatal (hresult.trans hl) hf

/-- A read leaves the script without its first item. -/
theorem reads_ask (s : Session Script) (prompt : Prompt) :
    (s.ask prompt).2.host.reads = s.host.reads.tail := by
  cases hreads : s.host.reads with
  | nil =>
    rw [ask_of_nil hreads]
    exact hreads
  | cons item rest =>
    rw [ask_of_cons hreads]
    rfl

/-- A launch leaves all reads. -/
theorem reads_launch (s : Session Script) (prompt : Prompt) (command : Command) :
    (s.launch prompt command).2.host.reads = s.host.reads := by
  cases hlaunches : s.host.launches with
  | nil =>
    rw [launch_of_nil hlaunches]
    rfl
  | cons item rest =>
    rw [launch_of_cons hlaunches]
    rfl

/-- A step takes one read off the script where something is asked for, and otherwise none. -/
theorem Step.reads_eq (hs : Step a s b t) :
    t.host.reads = if a.prompt?.isSome then s.host.reads.tail else s.host.reads := by
  cases hs with
  | list => exact congrArg Script.reads (host_sayAll _ _)
  | answer => exact s.reads_ask .offer
  | silence => exact s.reads_ask .offer
  | hear => exact s.reads_ask .command
  | again => exact s.reads_launch _ _
  | againFailed => exact s.reads_launch _ _
  | launched => exact s.reads_launch _ _
  | complain => exact s.reads_launch _ _
  | fatal => exact s.reads_launch _ _
  | keep => exact congrArg Script.reads s.host_keep
  | _ => rfl

/-- A read leaves all launches. -/
theorem launches_ask (s : Session Script) (prompt : Prompt) :
    (s.ask prompt).2.host.launches = s.host.launches := by
  cases hreads : s.host.reads with
  | nil =>
    rw [ask_of_nil hreads]
    rfl
  | cons item rest =>
    rw [ask_of_cons hreads]
    rfl

/-- A launch leaves the script without its first launch. -/
theorem launches_launch (s : Session Script) (prompt : Prompt) (command : Command) :
    (s.launch prompt command).2.host.launches = s.host.launches.tail := by
  cases hlaunches : s.host.launches with
  | nil =>
    rw [launch_of_nil hlaunches]
    rfl
  | cons item rest =>
    rw [launch_of_cons hlaunches]
    rfl

/-- A step takes one launch off the script where something is launched, and otherwise none. -/
theorem Step.launches_eq (hs : Step a s b t) :
    t.host.launches = if a.launch?.isSome then s.host.launches.tail else s.host.launches := by
  cases hs with
  | list => exact congrArg Script.launches (host_sayAll _ _)
  | answer => exact s.launches_ask .offer
  | silence => exact s.launches_ask .offer
  | hear => exact s.launches_ask .command
  | again => exact s.launches_launch _ _
  | againFailed => exact s.launches_launch _ _
  | launched => exact s.launches_launch _ _
  | complain => exact s.launches_launch _ _
  | fatal => exact s.launches_launch _ _
  | keep => exact congrArg Script.launches s.host_keep
  | _ => rfl

/-- A step that does not read past the end of the script takes as many reads off it as it asks
questions. -/
theorem Step.length_reads (hs : Step a s b t) (h : a.prompt?.isSome → s.host.reads ≠ []) :
    s.host.reads.length = (questionsOf (s.since t)).length + t.host.reads.length := by
  rw [hs.questionsOf_since, hs.reads_eq]
  cases hprompt : a.prompt? with
  | none => simp
  | some prompt =>
    have hpos := List.length_pos_iff.2 (h (by simp [hprompt]))
    simp
    omega

/-- A path either is the same with further reads, with a question for each read that it takes off the
script, or comes to a stage that reads past the end of the script, up to which this is so. -/
theorem Path.extend_or (more : List ScriptedRead) (h : Path a s b t) :
    (Path a (s.extend more) b (t.extend more) ∧
      s.host.reads.length = (questionsOf (s.since t)).length + t.host.reads.length) ∨
    ∃ c u prompt d v, c.prompt? = some prompt ∧ u.host.reads = [] ∧ Path a s c u ∧
      Path a (s.extend more) c (u.extend more) ∧
      s.host.reads.length = (questionsOf (s.since u)).length ∧ Step c u d v ∧ Path d v b t := by
  induction h with
  | refl => exact Or.inl ⟨.refl, by simp [since, questionsOf]⟩
  | @step b t c u hpath hs ih =>
    rcases ih with ⟨hextended, hlength⟩ | ⟨_, _, _, _, _, hprompt, hreads, hbefore, hextended,
      hlength, hpast, hrest⟩
    · by_cases hpast : b.prompt?.isSome ∧ t.host.reads = []
      · obtain ⟨prompt, hprompt⟩ := Option.isSome_iff_exists.1 hpast.1
        refine Or.inr ⟨b, t, prompt, c, u, hprompt, hpast.2, hpath, hextended, ?_, hs, .refl⟩
        rw [hlength, hpast.2, List.length_nil, Nat.add_zero]
      · have hwithin : b.prompt?.isSome → t.host.reads ≠ [] := fun hp hn => hpast ⟨hp, hn⟩
        refine Or.inl ⟨hextended.step (hs.extend hwithin), ?_⟩
        rw [hpath.since_append hs.path, questionsOf_append, List.length_append, hlength,
          hs.length_reads hwithin, Nat.add_assoc]
    · exact Or.inr ⟨_, _, _, _, _, hprompt, hreads, hbefore, hextended, hlength, hpast,
        hrest.step hs⟩

/-- Where a session has asked one question more than its script holds reads, and that for a command
with no interrupt waiting, it comes to the end of its script where it asks for that command. With
further reads it comes there, too. -/
theorem reaches_end_of_script {s : Session Script} {asked : List (Prompt × Bool)}
    (hasked : questionsOf s.events = asked ++ [(.command, false)])
    (hlength : asked.length = s.host.reads.length) (more : List ScriptedRead) :
    ∃ t, Path .polling s .prompting t ∧
      Path .polling (s.extend more) .prompting (t.extend more) ∧
      t.host.reads = [] ∧ t.console.pending = false := by
  rcases s.path_run.extend_or more with ⟨-, hwithin⟩ |
    ⟨c, t, prompt, d, u, hprompt, hreads, hpath, hextended, htaken, hstep, hrest⟩
  · -- Each question would have been answered by a read of the script.
    have hquestions := congrArg List.length hasked
    rw [List.length_append, hlength, List.length_singleton] at hquestions
    change s.host.reads.length = (questionsOf s.events).length + _ at hwithin
    omega
  · have hquestions : questionsOf s.events = questionsOf (s.since t) ++
        ((prompt, t.console.pending) :: questionsOf (u.since s.run.2)) := by
      rw [hpath.events_eq, hstep.path.since_append hrest, questionsOf_append, questionsOf_append,
        hstep.questionsOf_since, hprompt]
      rfl
    obtain ⟨-, hlast⟩ := List.append_inj (hquestions.symm.trans hasked) (by rw [← htaken, hlength])
    obtain ⟨hfirst, -⟩ := List.cons.inj hlast
    obtain ⟨rfl, hpending⟩ := Prod.mk.inj hfirst
    have hc : c = .prompting := by
      cases c <;> first | rfl | cases hprompt
    subst hc
    exact ⟨t, hpath, hextended, hreads, hpending⟩

/-- At the end of its script a session meets the end of the stream. -/
theorem Step.hear_end {t : Session Script} (hreads : t.host.reads = []) :
    Step .prompting t (.heard .endOfStream) (t.ask .command).2 := by
  have hear : Step .prompting t (.heard (t.ask .command).1) (t.ask .command).2 := .hear
  rwa [show (t.ask .command).1 = .endOfStream by rw [ask_of_nil hreads]] at hear

/-- A session that asks for a command at the end of its script ends there. -/
theorem run_of_end_of_script {s t : Session Script} (h : Path .polling s .prompting t)
    (hreads : t.host.reads = []) : s.run = (.ok 0, (t.ask .command).2.finish) :=
  ((h.step (.hear_end hreads)).step .finish).over_unique

/-- Ending there changes neither the history nor the script nor the disk. -/
theorem finish_at_end_of_script {t : Session Script} (hreads : t.host.reads = []) :
    (t.ask .command).2.finish.history = t.history ∧ (t.ask .command).2.finish.host = t.host ∧
      (t.ask .command).2.finish.console.disk = t.console.disk := by
  obtain ⟨_, hc, -⟩ := (t.ask .command).2.console.calm_flush
  refine ⟨rfl, ?_, hc.disk.trans (t.disk_ask .command)⟩
  rw [ask_of_nil hreads]
  rfl

/-- A session that asks for a command at the end of its script launches and says nothing more. -/
theorem quiet_of_end_of_script {s t : Session Script} (h : Path .polling s .prompting t)
    (hreads : t.host.reads = []) : launchesOf s.events = launchesOf (s.since t) ∧
      s.run.2.console.out.accepted = t.console.out.accepted := by
  have hrun := run_of_end_of_script h hreads
  have hear := Step.hear_end hreads
  have hfinish : Step (.heard .endOfStream) (t.ask .command).2 (.over (.ok 0))
      (t.ask .command).2.finish := .finish
  constructor
  · have hnothing : launchesOf (t.since (t.ask .command).2.finish) = [] := by
      rw [hear.path.since_append hfinish.path, launchesOf_append, hear.launchesOf_since,
        hfinish.launchesOf_since]
      rfl
    rw [h.events_eq, hrun, launchesOf_append, hnothing, List.append_nil]
  · rw [hrun, ask_of_nil hreads]
    exact (congrArg Sink.accepted (Console.out_flush _)).trans (Sink.accepted_flush _)

end Session

end RecallShell
