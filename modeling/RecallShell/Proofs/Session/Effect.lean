import RecallShell.Proofs.Session.Heading

/-!
# What a step does to the history and to the disk

One step of a session adds a program to the history, and the next one writes the history to its file.
Every other step leaves the history as it is, and leaves the disk to the host, which acts where
something is asked for or launched. Between the read of a line and the writing of its program the
file is behind.
-/

namespace RecallShell

/-- A program has been recorded that the file does not hold yet. -/
def Stage.isBehind : Stage → Bool
  | .heard (.line line) => (Command.parse line).program?.isSome
  | .keeping .. => true
  | _ => false

/-- The program that has just been added to the history, with its command. -/
def Stage.added? : Stage → Option (String × Command)
  | .keeping program command | .launching program command => some (program, command)
  | _ => none

@[simp] theorem Stage.isBehind_resumed (waited : Bool) :
    (Stage.resumed waited).isBehind = false := by
  cases waited <;> rfl

@[simp] theorem Stage.added?_resumed (waited : Bool) : (Stage.resumed waited).added? = none := by
  cases waited <;> rfl

/-- Where the file is not behind nothing is due. -/
theorem Stage.due_eq_nil {stage : Stage} (h : stage.isBehind = false) : stage.due = [] := by
  cases stage with
  | heard outcome =>
    cases outcome with
    | line line => simpa [isBehind, due] using h
    | _ => rfl
  | _ => rfl

/-- Where something is asked for or launched, the file is not behind. -/
theorem Stage.isBehind_of_looks {stage : Stage}
    (h : (stage.prompt?.isSome || stage.launch?.isSome) = true) : stage.isBehind = false := by
  cases stage <;> first | rfl | cases h

namespace Session

variable {H : Type} [Host H]

/-- The disk as the host leaves it at a stage. It acts where something is asked for or launched. -/
def diskAfterHost (s : Session H) : Stage → Disk
  | .offering _ => (s.ask .offer).2.console.disk
  | .prompting => (s.ask .command).2.console.disk
  | .repeating _ entry => (s.launch .offer (Command.ofEntry entry)).2.console.disk
  | .launching _ command => (s.launch .command command).2.console.disk
  | _ => s.console.disk

/-- An aloof host leaves the whole disk as it was. -/
theorem diskAfterHost_eq [Host.Aloof H] (s : Session H) (stage : Stage) :
    s.diskAfterHost stage = s.console.disk := by
  cases stage with
  | offering => exact s.disk_ask .offer
  | prompting => exact s.disk_ask .command
  | repeating => exact s.disk_launch _ _
  | launching => exact s.disk_launch _ _
  | _ => rfl

/-- The history is kept at the same place all along. -/
theorem Step.path_eq {a b : Stage} {s t : Session H} (hs : Step a s b t) : t.path = s.path := by
  cases hs with
  | list => exact path_sayAll _ _
  | keep => exact s.path_keep
  | _ => rfl

/-- It is the same place at both ends of a path. -/
theorem Path.path_eq {a b : Stage} {s t : Session H} (h : Path a s b t) : t.path = s.path := by
  induction h with
  | refl => rfl
  | step _ hs ih => exact hs.path_eq.trans ih

/-- What a step does to the history and to the disk. One step adds a program to the history and one
writes the history to its file; every other step leaves the history as it is, and the disk to the
host. -/
inductive Effect (a : Stage) (s : Session H) (b : Stage) (t : Session H) (new : List Event) : Prop
  | remembers {line program : String} (ha : a = .heard (.line line))
      (hprogram : (Command.parse line).program? = some program)
      (hb : b = .keeping program (Command.parse line)) (ht : t = s.remember program)
      (hnew : new = [])
  | keeps {program : String} {command : Command} (ha : a = .keeping program command)
      (hb : b = .launching program command) (ht : t = s.keep)
  | leaves (hhistory : t.history = s.history) (hdisk : t.console.disk = s.diskAfterHost a)
      (hrecorded : recorded new = b.due) (ha : a.isBehind = false) (hb : b.added? = none)

/-- A step after which nothing is due and that records nothing leaves the history and the disk
alone. -/
theorem Effect.quiet {a b : Stage} {s t : Session H} {new : List Event}
    (hhistory : t.history = s.history) (hdisk : t.console.disk = s.diskAfterHost a)
    (hnew : recorded new = []) (hdue : b.due = []) (ha : a.isBehind = false)
    (hb : b.added? = none) : Effect a s b t new :=
  .leaves hhistory hdisk (hnew.trans hdue.symm) ha hb

variable [Host.Discreet H]

/-- What is read at the offer is not recorded. -/
theorem recorded_ask_offer (s : Session H) {new : List Event}
    (hlog : (s.ask .offer).2.console.log = s.console.log ++ new) : recorded new = [] := by
  obtain ⟨ambient, hambient, hask⟩ := s.log_ask .offer
  obtain rfl := List.append_cancel_left (hlog.symm.trans hask)
  rw [recorded_framed rfl hambient]
  rfl

/-- A launch, with what is said after it, has nothing recorded. -/
theorem recorded_launch (s : Session H) (prompt : Prompt) (command : Command) {console : Console}
    {said new : List Event}
    (hsaid : console.log = (s.launch prompt command).2.console.log ++ said)
    (hnothing : recorded said = []) (hlog : console.log = s.console.log ++ new) :
    recorded new = [] := by
  obtain ⟨ambient, hambient, hlaunch⟩ := s.log_launch prompt command
  rw [hsaid, hlaunch, List.append_assoc] at hlog
  obtain rfl := List.append_cancel_left hlog
  rw [recorded_append, recorded_framed rfl hambient, hnothing]
  rfl

/-- Ambient events have nothing recorded. -/
theorem recorded_ambient {events : List Event} (h : ∀ event ∈ events, event.isAmbient = true) :
    recorded events = [] :=
  recorded_eq_nil fun event he => Event.program?_of_isAmbient (h event he)

/-- Each step has one of the three effects. -/
theorem Step.effect {a b : Stage} {s t : Session H} {new : List Event} (hs : Step a s b t)
    (hlog : t.console.log = s.console.log ++ new) : Effect a s b t new := by
  have hstay : t.console.log = s.console.log → new = [] := by
    intro ht
    rw [ht] at hlog
    simpa using hlog
  have hcalm : ∀ {c d : Console} {said : List Event}, c.Calm d said → d.log = c.log ++ new →
      recorded new = [] := by
    intro c d said hc hlog
    obtain rfl := List.append_cancel_left (hlog.symm.trans hc.log)
    exact recorded_ambient hc.ambient
  have hunsaid : ∀ log : List Event, log = log ++ [] := fun log => (List.append_nil log).symm
  cases hs with
  | idle => exact .quiet rfl rfl (by rw [hstay rfl]; rfl) rfl rfl rfl
  | notice => exact .quiet rfl rfl (by rw [hstay rfl]; rfl) rfl rfl rfl
  | list =>
    obtain ⟨said, hc, hlist⟩ := s.calm_list
    obtain rfl := List.append_cancel_left (hlog.symm.trans hlist)
    have hsaid : recorded said = [] := recorded_ambient hc.ambient
    exact .quiet (history_sayAll _ _) hc.disk hsaid rfl rfl rfl
  | answer => exact .quiet rfl rfl (s.recorded_ask_offer hlog) rfl rfl rfl
  | silence =>
    exact .quiet rfl rfl (s.recorded_ask_offer hlog) (Stage.due_resumed _) rfl
      (Stage.added?_resumed _)
  | decline =>
    exact .quiet rfl rfl (by rw [hstay rfl]; rfl) (Stage.due_resumed _) rfl
      (Stage.added?_resumed _)
  | nothing =>
    obtain ⟨_, hc, -⟩ := s.calm_say Recall.nothingToRepeat
    exact .quiet rfl hc.disk (hcalm hc hlog) (Stage.due_resumed _) rfl (Stage.added?_resumed _)
  | @accept _ _ _ entry =>
    obtain ⟨_, hc, -⟩ := s.calm_say (Recall.announcement entry)
    exact .quiet rfl hc.disk (hcalm hc hlog) rfl rfl rfl
  | again =>
    exact .quiet rfl rfl (s.recorded_launch _ _ (hunsaid _) rfl hlog) (Stage.due_resumed _) rfl
      (Stage.added?_resumed _)
  | @againFailed _ _ entry e =>
    obtain ⟨said, hc⟩ := (s.launch .offer (Command.ofEntry entry)).2.calm_warn_say
      (Recall.failureWarning entry e) (Recall.failureLine e)
    exact .quiet rfl hc.disk
      (s.recorded_launch _ _ hc.log (recorded_ambient hc.ambient) hlog) (Stage.due_resumed _) rfl
      (Stage.added?_resumed _)
  | hear =>
    obtain ⟨ambient, hambient, hask⟩ := s.log_ask .command
    obtain rfl := List.append_cancel_left (hlog.symm.trans hask)
    refine .leaves rfl rfl ?_ rfl rfl
    rw [recorded_framed rfl hambient]
    cases (s.ask .command).1 <;> rfl
  | blank hp =>
    exact .quiet rfl rfl (by rw [hstay rfl]; rfl) rfl (by simp [Stage.isBehind, hp]) rfl
  | remember hp => exact .remembers rfl hp rfl rfl (hstay rfl)
  | cut => exact .quiet rfl rfl (by rw [hstay rfl]; rfl) rfl rfl rfl
  | finish =>
    obtain ⟨_, hc, -⟩ := s.console.calm_flush
    exact .quiet rfl hc.disk (hcalm hc hlog) rfl rfl rfl
  | fail => exact .quiet rfl rfl (by rw [hstay rfl]; rfl) rfl rfl rfl
  | keep => exact .keeps rfl rfl rfl
  | launched =>
    exact .quiet rfl rfl (s.recorded_launch _ _ (hunsaid _) rfl hlog) rfl rfl rfl
  | complain =>
    exact .quiet rfl rfl (s.recorded_launch _ _ (log_complain _ _) rfl hlog) rfl rfl rfl
  | fatal => exact .quiet rfl rfl (s.recorded_launch _ _ (hunsaid _) rfl hlog) rfl rfl rfl

end Session

end RecallShell
