import RecallShell.Proofs.Session.Extension
import RecallShell.Proofs.Session.Outcome

/-!
# What a session launches on account of what it reads

A session asks its host for lines and has it launch commands. What it launches is settled by what
its reads come to and by the entries it started with: the command of each line that was read as a
command and has one, and the words of the newest entry for each answer that takes the offer while
there is something to launch. Each is launched right after the read that it is due to and before the
next one, and nothing else is launched. A script is played item by item, both in what it has its reads
come to and in how it has its launches go.
-/

namespace RecallShell

open Text Recall

/-- A question to the host, an answer of the host, or a command for it to launch. -/
inductive Dealing where
  /-- A line is asked for, while the history holds some entries. -/
  | asked (prompt : Prompt) (entries : List String)
  /-- The read comes to something. -/
  | answered (prompt : Prompt) (outcome : ReadOutcome)
  /-- A command is to be launched, on account of a line read under a prompt. -/
  | launching (prompt : Prompt) (command : Command)
  deriving DecidableEq, Repr

/-- What an event says of the dealings with the host. -/
def Event.dealing? : Event → Option Dealing
  | .asked prompt view => some (.asked prompt view.history)
  | .answered prompt outcome => some (.answered prompt outcome)
  | .launching prompt command _ => some (.launching prompt command)
  | _ => none

/-- The dealings with the host that events tell of, in order. -/
def dealingsOf (events : List Event) : List Dealing := events.filterMap Event.dealing?

@[simp] theorem dealingsOf_append (xs ys : List Event) :
    dealingsOf (xs ++ ys) = dealingsOf xs ++ dealingsOf ys := List.filterMap_append

/-- How the launch with a number goes: as the script has it, or as it is asked for once the script is
used up. -/
def Script.fateAt (script : Script) (number : Nat) : LaunchFate :=
  (script.launches[number]?.map ScriptedLaunch.fate).getD (.asAsked 0)

/-- The command that is due to be launched when a read under a prompt has come to something, while
the history holds some entries. -/
def dueCommand? (entries : List String) : Prompt → ReadOutcome → Option Command
  | .command, .line line => some (Command.parse line) |>.filter fun command => !command.isEmpty
  | .offer, .line answer =>
    if accepts answer then
      entries.getLast?.map Command.ofEntry |>.filter fun command => !command.isEmpty
    else none
  | _, _ => none

/-- The launch that is due on account of a read. -/
def dueLaunch (entries : List String) (prompt : Prompt) (outcome : ReadOutcome) : List Dealing :=
  (dueCommand? entries prompt outcome).toList.map (.launching prompt)

/-- The program that is added to the history on account of a read. -/
def dueProgram (prompt : Prompt) (outcome : ReadOutcome) : List String :=
  (Event.answered prompt outcome).program?.toList

/-- The dealings of a session whose reads come to given outcomes, under given prompts, after some
programs have been added to its history. -/
def dealt (added : List String) : List (Prompt × ReadOutcome) → List Dealing
  | [] => []
  | (prompt, outcome) :: answers =>
    .asked prompt (newest History.defaultCapacity added) :: .answered prompt outcome ::
      (dueLaunch (newest History.defaultCapacity added) prompt outcome ++
        dealt (added ++ dueProgram prompt outcome) answers)

/-- The programs that answers add to the history, in order. -/
def programsOf (answers : List (Prompt × ReadOutcome)) : List String :=
  answers.flatMap fun answer => dueProgram answer.1 answer.2

theorem dealt_append (added : List String) (xs ys : List (Prompt × ReadOutcome)) :
    dealt added (xs ++ ys) = dealt added xs ++ dealt (added ++ programsOf xs) ys := by
  induction xs generalizing added with
  | nil => simp [dealt, programsOf]
  | cons answer xs ih =>
    obtain ⟨prompt, outcome⟩ := answer
    have hprograms : programsOf ((prompt, outcome) :: xs) =
        dueProgram prompt outcome ++ programsOf xs := List.flatMap_cons
    simp only [List.cons_append, dealt, ih, hprograms, List.append_assoc]

/-- What is recorded is what the answers add. -/
theorem recorded_eq_programsOf (events : List Event) :
    recorded events = programsOf (answersOf events) := by
  induction events with
  | nil => rfl
  | cons event events ih =>
    have hrecorded : recorded (event :: events) = event.program?.toList ++ recorded events := by
      rw [← List.singleton_append, recorded_append]
      cases hp : event.program? <;> simp [recorded, hp]
    rw [hrecorded, ih]
    cases event <;> rfl

/-- An offer that is taken calls for the launch of the entry that is offered. -/
theorem dueCommand?_offer {answer : String} (h : accepts answer = true) (history : History) :
    dueCommand? history.entries .offer (.line answer) =
      (candidate? history).map Command.ofEntry := by
  rw [dueCommand?, if_pos h, candidate?, History.newest?]
  cases history.entries.getLast? with
  | none => rfl
  | some entry => cases he : (Command.ofEntry entry).isEmpty <;> simp [he]

/-- A line calls for the launch of its command if it has a program. -/
theorem dueCommand?_line {line program : String} (h : (Command.parse line).program? = some program)
    (entries : List String) :
    dueCommand? entries .command (.line line) = some (Command.parse line) := by
  have hne : (Command.parse line).isEmpty = false := by
    cases he : (Command.parse line).isEmpty with
    | false => rfl
    | true =>
      rw [Command.program?_eq_none_iff.2 he] at h
      cases h
  simp [dueCommand?, hne]

/-- A blank line calls for no launch. -/
theorem dueCommand?_blank {line : String} (h : (Command.parse line).program? = none)
    (entries : List String) : dueCommand? entries .command (.line line) = none := by
  simp [dueCommand?, Command.program?_eq_none_iff.1 h]

/-- Only a line that answers the offer calls for a launch. -/
theorem dueCommand?_offer_of_ne {outcome : ReadOutcome} (h : ∀ answer, outcome ≠ .line answer)
    (entries : List String) : dueCommand? entries .offer outcome = none := by
  cases outcome with
  | line answer => exact absurd rfl (h answer)
  | _ => rfl

namespace Session

variable {H : Type}

/-- The launches that are still to come at a stage on account of what has been read. -/
def owed (s : Session H) : Stage → List Dealing
  | .replied _ answer => dueLaunch s.history.entries .offer (.line answer)
  | .repeating _ entry => [.launching .offer (Command.ofEntry entry)]
  | .heard outcome => dueLaunch s.history.entries .command outcome
  | .keeping _ command | .launching _ command => [.launching .command command]
  | _ => []

@[simp] theorem owed_resumed (s : Session H) (waited : Bool) : s.owed (.resumed waited) = [] := by
  cases waited <;> rfl

/-- Events that begin no step tell of answers only. -/
theorem dealingsOf_of_not_isHeading {events : List Event}
    (h : ∀ event ∈ events, event.isHeading = false) :
    dealingsOf events = (answersOf events).map fun answer => .answered answer.1 answer.2 := by
  induction events with
  | nil => rfl
  | cons event events ih =>
    have hrest := ih fun e he => h e (List.mem_cons_of_mem event he)
    have hfirst := h event List.mem_cons_self
    cases event with
    | answered prompt outcome => exact congrArg (Dealing.answered prompt outcome :: ·) hrest
    | interrupting => cases hfirst
    | asked => cases hfirst
    | launching => cases hfirst
    | _ => exact hrest

variable [Host H] [Host.Discreet H]

/-- A step asks and is answered, or launches, as its stage has it. -/
theorem Step.dealingsOf_since {a b : Stage} {s t : Session H} (hs : Step a s b t) :
    dealingsOf (s.since t) =
      (a.prompt?.toList.flatMap fun prompt =>
        [.asked prompt s.history.entries, .answered prompt (s.ask prompt).1]) ++
      a.launch?.toList.map fun launch => .launching launch.1 launch.2 := by
  have hanswers := hs.passes.of_since.1
  obtain ⟨rest, hlog, hrest⟩ := hs.heads
  rw [since_eq hlog] at hanswers ⊢
  rw [dealingsOf_append, dealingsOf_of_not_isHeading hrest]
  rw [answersOf_append, show answersOf (s.heading a) = [] by cases a <;> rfl,
    List.nil_append] at hanswers
  rw [hanswers]
  cases a <;> rfl

/-- Where a step asks for something, the answer settles what is owed next; otherwise what was owed
is launched or is owed still. -/
theorem Step.deals {added : List String} {a b : Stage} {s t : Session H} (hs : Step a s b t)
    (hentries : a.due = [] → s.history.entries = newest History.defaultCapacity added) :
    dealingsOf (s.since t) ++ t.owed b = s.owed a ++ dealt added (answersOf (s.since t)) := by
  rw [hs.dealingsOf_since, hs.passes.of_since.1]
  cases hs with
  | idle => rfl
  | notice => rfl
  | list => rfl
  | answer ha => simp [Stage.prompt?, Stage.launch?, owed, dealt, ha, hentries rfl]
  | silence ha =>
    rw [owed_resumed]
    simp [Stage.prompt?, Stage.launch?, owed, dealt, dueLaunch, dueCommand?_offer_of_ne ha,
      hentries rfl]
  | decline ha =>
    rw [owed_resumed]
    simp [Stage.prompt?, Stage.launch?, owed, dealt, dueLaunch, dueCommand?, ha]
  | nothing ha hc =>
    rw [owed_resumed]
    simp [Stage.prompt?, Stage.launch?, owed, dealt, dueLaunch, dueCommand?_offer ha, hc]
  | accept ha hc =>
    simp [Stage.prompt?, Stage.launch?, owed, dealt, dueLaunch, dueCommand?_offer ha, hc]
  | again =>
    rw [owed_resumed]
    rfl
  | againFailed =>
    rw [owed_resumed]
    rfl
  | hear => simp [Stage.prompt?, Stage.launch?, owed, dealt, hentries rfl]
  | blank hp => simp [Stage.prompt?, Stage.launch?, owed, dealt, dueLaunch, dueCommand?_blank hp]
  | remember hp =>
    simp [Stage.prompt?, Stage.launch?, owed, dealt, dueLaunch, dueCommand?_line hp]
  | cut => rfl
  | finish => rfl
  | fail => rfl
  | keep => rfl
  | launched => rfl
  | complain => rfl
  | fatal => rfl

/-- What a session has dealt with its host by some stage, with what it still owes, is settled by its
answers. -/
theorem Path.dealings {stage : Stage} {s t : Session H} (h : Path .polling s stage t)
    (hroom : s.history.capacity = History.defaultCapacity) :
    dealingsOf (s.since t) ++ t.owed stage = dealt s.history.entries (answersOf (s.since t)) := by
  induction h with
  | refl => simp [since, owed, answersOf, dealingsOf, dealt]
  | @step b t c u hpath hs ih =>
    -- Where a read is about to be asked for, nothing is missing from the history.
    have hentries : b.due = [] → t.history.entries = newest History.defaultCapacity
        (s.history.entries ++ programsOf (answersOf (s.since t))) := by
      intro hdue
      rw [hpath.entries_eq rfl hdue, hroom, recorded_eq_programsOf]
    rw [hpath.since_append hs.path, dealingsOf_append, answersOf_append, dealt_append, ← ih,
      List.append_assoc, List.append_assoc, hs.deals hentries]

/-- What a scripted read comes to is the first item of the script, or the end of the stream. -/
theorem fst_ask (s : Session Script) (prompt : Prompt) :
    (s.ask prompt).1 = (s.host.reads.head?.map ScriptedRead.outcome).getD .endOfStream := by
  cases hreads : s.host.reads with
  | nil => rw [ask_of_nil hreads, List.head?_nil, Option.map_none, Option.getD_none]
  | cons item rest => rw [ask_of_cons hreads, List.head?_cons, Option.map_some, Option.getD_some]

/-- Each read of a scripted session brings the item of the script that it is the turn of, and the
end of the stream once all have been brought. -/
theorem Path.plays {a b : Stage} {s t : Session Script} (h : Path a s b t) :
    t.host.reads = s.host.reads.drop (answersOf (s.since t)).length ∧
      ∀ (i : Nat) (prompt : Prompt) (outcome : ReadOutcome),
        (answersOf (s.since t))[i]? = some (prompt, outcome) →
        outcome = (s.host.reads[i]?.map ScriptedRead.outcome).getD .endOfStream := by
  induction h with
  | refl => simp [since, answersOf]
  | @step b t c u hpath hs ih =>
    obtain ⟨hreads, hplayed⟩ := ih
    rw [hpath.since_append hs.path, answersOf_append, hs.passes.of_since.1, hs.reads_eq]
    cases hprompt : b.prompt? with
    | none => simpa using ⟨hreads, hplayed⟩
    | some asked =>
      refine ⟨by simp [hreads], ?_⟩
      intro i prompt outcome hi
      rw [List.getElem?_append] at hi
      split at hi
      · exact hplayed i prompt outcome hi
      · rename_i hbeyond
        rw [Option.toList_some, List.map_singleton, List.getElem?_singleton] at hi
        split at hi
        · rename_i hnext
          have hturn : (answersOf (s.since t)).length = i := by omega
          obtain ⟨rfl, rfl⟩ := Prod.mk.inj (Option.some.inj hi)
          rw [t.fst_ask, hreads, hturn, List.head?_drop]
        · cases hi

/-- A step comes to what its launch comes to, if it launches anything. -/
theorem Step.launchResultsOf_since {a b : Stage} {s t : Session H} (hs : Step a s b t) :
    launchResultsOf (s.since t) =
      a.launch?.toList.map fun launch => (launch, (s.launch launch.1 launch.2).1) := by
  rw [← launchResultsOf_outcomesOf, hs.outcomesOf_since]
  cases a with
  | keeping => exact launchResultsOf_map_complained _
  | launching program command =>
    exact congrArg (_ :: ·) (launchResultsOf_map_complained _)
  | _ => rfl

/-- A scripted launch goes as the first item of the script has it. -/
theorem fst_launch (s : Session Script) (prompt : Prompt) (command : Command) :
    (s.launch prompt command).1 = (s.host.fateAt 0).result command := by
  rw [Script.fateAt]
  cases hlaunches : s.host.launches with
  | nil => rw [launch_of_nil hlaunches, List.getElem?_nil, Option.map_none, Option.getD_none]
  | cons item rest =>
    rw [launch_of_cons hlaunches, List.getElem?_cons_zero, Option.map_some, Option.getD_some]

/-- Each launch of a scripted session goes as the item of the script has it that it is the turn of, and
as it is asked for once all have been used. -/
theorem Path.plays_launches {a b : Stage} {s t : Session Script} (h : Path a s b t) :
    t.host.launches = s.host.launches.drop (launchesOf (s.since t)).length ∧
      launchResultsOf (s.since t) = (launchesOf (s.since t)).mapIdx fun number launch =>
        (launch, (s.host.fateAt number).result launch.2) := by
  induction h with
  | refl => simp [since, launchesOf, launchResultsOf]
  | @step b t c u hpath hs ih =>
    obtain ⟨hlaunches, hplayed⟩ := ih
    rw [hpath.since_append hs.path, launchesOf_append, launchResultsOf_append, hplayed,
      hs.launchesOf_since, hs.launchResultsOf_since, hs.launches_eq, List.mapIdx_append]
    cases hlaunch : b.launch? with
    | none => simpa using hlaunches
    | some launch =>
      have hturn : t.host.fateAt 0 = s.host.fateAt (launchesOf (s.since t)).length := by
        rw [Script.fateAt, hlaunches, List.getElem?_drop, Nat.add_zero, Script.fateAt]
      refine ⟨by simp [hlaunches], ?_⟩
      simp [fst_launch, hturn]

/-- Whatever the file held, the host brings and the output takes: what a session launches is what is
due on account of its reads, each command right after the read that it is due to and before the next
one. No read comes twice: those of a scripted session bring the items of its script one by one. Nor is
anything launched twice: its launches go as the items of its script have it one by one, and what was
not asked for is left. -/
theorem dealings_eq_dealt {H : Type} [Host H] [Host.Discreet H] (settings : Settings) (host : H)
    (console : Console) :
    let s := start settings host console
    let loaded := (History.load console.disk settings.historyPath).1.entries
    dealingsOf s.events = dealt loaded (answersOf s.events) ∧
      (∀ (script : Script) (i : Nat) (prompt : Prompt) (outcome : ReadOutcome),
        (answersOf (start settings script console).events)[i]? = some (prompt, outcome) →
        outcome = (script.reads[i]?.map ScriptedRead.outcome).getD .endOfStream) ∧
      ∀ script : Script,
        let played := start settings script console
        launchResultsOf played.events = (launchesOf played.events).mapIdx (fun number launch =>
            (launch, (script.fateAt number).result launch.2)) ∧
          played.run.2.host.reads = script.reads.drop (answersOf played.events).length ∧
          played.run.2.host.launches =
            script.launches.drop (launchesOf played.events).length := by
  intro s loaded
  refine ⟨?_, fun script => (start settings script console).path_run.plays.2, fun script => ?_⟩
  · have h := s.path_run.dealings (History.capacity_load _ _)
    rwa [show s.run.2.owed (.over s.run.1) = [] from rfl, List.append_nil] at h
  · have hpath := (start settings script console).path_run
    exact ⟨hpath.plays_launches.2, hpath.plays.1, hpath.plays_launches.1⟩

/-- A signal that comes with a line makes the next one an answer, which repeats the program of the
first; the same text is a command when it is read as one. -/
theorem dealings_eq_dealt_of_signal :
    let s := ofScript [⟨.line "date -u &", true⟩, ⟨.line "r\r\n", false⟩, ⟨.line " & ", false⟩,
      ⟨.line "r", false⟩] []
    dealingsOf s.events =
      [.asked .command [], .answered .command (.line "date -u &"),
        .launching .command ⟨["date", "-u"], true⟩,
        .asked .offer ["date"], .answered .offer (.line "r\r\n"),
        .launching .offer (Command.foreground ["date"]),
        .asked .command ["date"], .answered .command (.line " & "),
        .asked .command ["date"], .answered .command (.line "r"),
        .launching .command (Command.foreground ["r"]),
        .asked .command ["date", "r"], .answered .command .endOfStream] := by
  intro s
  have hanswers : answersOf s.events =
      [(.command, .line "date -u &"), (.offer, .line "r\r\n"), (.command, .line " & "),
        (.command, .line "r"), (.command, .endOfStream)] := by decide +kernel
  have hloaded : (History.load Disk.bare (encode "h")).1.entries = [] := by decide +kernel
  have h := (dealings_eq_dealt (Settings.withHistoryPath (encode "h")) s.host
    (Console.fresh Disk.bare Sink.unbounded)).1
  refine h.trans ?_
  rw [show (start (Settings.withHistoryPath (encode "h")) s.host
    (Console.fresh Disk.bare Sink.unbounded)).events = s.events from rfl, hanswers]
  rw [show (History.load (Console.fresh Disk.bare Sink.unbounded).disk
    (Settings.withHistoryPath (encode "h")).historyPath).1.entries = [] from hloaded]
  decide +kernel

end Session

end RecallShell
