import RecallShell.Proofs.Session.Complaint
import RecallShell.Proofs.Session.Lockstep
import RecallShell.Proofs.Session.Repeat

/-!
# Failures to write the history

Writing the history to its file may fail. The failure is warned of and complained of, and that is
all that becomes of it: two sessions that begin with the same history, on disks that take each write
or refuse it as they like, read the same, launch the same, say the same and have the same history at
every stage, and come to the same end. What the log tells of the attempts and what the file holds is
all that tells them apart.
-/

namespace RecallShell

open Text

/-- An event without what it shows of the history file. -/
def Event.withoutFile : Event → Event
  | .asked prompt view => .asked prompt { view with file := none }
  | .launching prompt command view => .launching prompt command { view with file := none }
  | event => event

/-- What the log tells of an attempt to write the history: that it succeeded, or that it failed and
was warned of and complained of. -/
def saveReport : Option ShellError → List Event
  | none => [.saved none]
  | some e => [.saved (some e), .warned e.message, .complained (Session.saveComplaint e)]

/-- The same has happened in the same order, but for what the history file held and for what became
of the attempts to write it. -/
inductive SameButSaves : List Event → List Event → Prop
  | nil : SameButSaves [] []
  | event {xs ys x y} : SameButSaves xs ys → x.withoutFile = y.withoutFile →
      SameButSaves (xs ++ [x]) (ys ++ [y])
  | save {xs ys failure failure'} : SameButSaves xs ys →
      SameButSaves (xs ++ saveReport failure) (ys ++ saveReport failure')

/-- A report of an attempt answers no read and launches nothing. -/
theorem answersOf_launchesOf_saveReport (failure : Option ShellError) :
    answersOf (saveReport failure) = [] ∧ launchesOf (saveReport failure) = [] := by
  cases failure <;> exact ⟨rfl, rfl⟩

/-- The file is not what a read comes to, nor what is launched. -/
theorem Event.answer?_launch?_withoutFile (event : Event) :
    event.withoutFile.answer? = event.answer? ∧ event.withoutFile.launch? = event.launch? := by
  cases event <;> exact ⟨rfl, rfl⟩

/-- Then the reads came to the same and the same was launched. -/
theorem SameButSaves.answersOf_launchesOf {xs ys : List Event} (h : SameButSaves xs ys) :
    answersOf ys = answersOf xs ∧ launchesOf ys = launchesOf xs := by
  induction h with
  | nil => exact ⟨rfl, rfl⟩
  | @event xs ys x y _ hxy ih =>
    obtain ⟨hanswers, hlaunches⟩ := ih
    have hanswer : y.answer? = x.answer? := by
      rw [← y.answer?_launch?_withoutFile.1, ← hxy, x.answer?_launch?_withoutFile.1]
    have hlaunch : y.launch? = x.launch? := by
      rw [← y.answer?_launch?_withoutFile.2, ← hxy, x.answer?_launch?_withoutFile.2]
    constructor
    · rw [answersOf_append, answersOf_append, hanswers]
      simp [answersOf, List.filterMap_cons, hanswer]
    · rw [launchesOf_append, launchesOf_append, hlaunches]
      simp [launchesOf, List.filterMap_cons, hlaunch]
  | @save xs ys failure failure' _ ih =>
    obtain ⟨hanswers, hlaunches⟩ := ih
    have hreport := answersOf_launchesOf_saveReport failure
    have hreport' := answersOf_launchesOf_saveReport failure'
    constructor
    · rw [answersOf_append, answersOf_append, hanswers, hreport.1, hreport'.1]
    · rw [launchesOf_append, launchesOf_append, hlaunches, hreport.2, hreport'.2]

namespace Console

/-- What happens from `b` to `c` happens likewise from `b'` to `c'`, attempts to write the history
apart, and the two come to differ at most in their disks and in what has been told of these. -/
structure Confined (b c b' c' : Console) : Prop where
  /-- The output is the same. -/
  out : c'.out = c.out
  /-- An interrupt waits in both or in neither. -/
  pending : c'.pending = c.pending
  /-- The same has happened, attempts to write the history apart. -/
  log : ∃ events events', c.log = b.log ++ events ∧ c'.log = b'.log ++ events' ∧
    SameButSaves events events'

namespace Confined

variable {b c b' c' : Console}

/-- Nothing has happened at first. -/
theorem refl (hout : b'.out = b.out) (hpending : b'.pending = b.pending) : Confined b b b' b' :=
  ⟨hout, hpending, [], [], by simp, by simp, .nil⟩

variable (h : Confined b c b' c')

include h

/-- Events that differ at most in what they show of the file are noted on both sides. -/
theorem record {x y : Event} (hxy : x.withoutFile = y.withoutFile) :
    Confined b (c.record x) b' (c'.record y) := by
  obtain ⟨events, events', hlog, hlog', hsame⟩ := h.log
  refine ⟨h.out, h.pending, events ++ [x], events' ++ [y], ?_, ?_, hsame.event hxy⟩
  · rw [Console.record, hlog, List.append_assoc]
  · rw [Console.record, hlog', List.append_assoc]

theorem withPending (pending : Bool) :
    Confined b { c with pending := pending } b' { c' with pending := pending } :=
  ⟨h.out, rfl, h.log⟩

theorem withOut (out : Sink) : Confined b { c with out := out } b' { c' with out := out } :=
  ⟨rfl, h.pending, h.log⟩

theorem recordSent (data : Bytes) : Confined b (c.recordSent data) b' (c'.recordSent data) := by
  unfold Console.recordSent
  split
  · exact h
  · exact h.record rfl

/-- What is written comes to the same and leaves the same. -/
theorem emit (bs : Bytes) :
    (c'.emit bs).1 = (c.emit bs).1 ∧ Confined b (c.emit bs).2 b' (c'.emit bs).2 := by
  unfold Console.emit
  rw [h.out]
  exact ⟨rfl, (h.withOut _).recordSent _⟩

theorem flush : Confined b c.flush b' c'.flush := by
  unfold Console.flush
  rw [h.out]
  split
  · exact (h.withOut _).recordSent _
  · exact h.withOut _

theorem complain (text : String) : Confined b (c.complain text) b' (c'.complain text) := by
  have hnoted := h.record (x := .complained text) (y := .complained text) rfl
  exact ⟨hnoted.out, hnoted.pending, hnoted.log⟩

theorem signalIf (arrives : Bool) : Confined b (c.signalIf arrives) b' (c'.signalIf arrives) := by
  cases arrives with
  | false => exact h
  | true => exact (h.withPending true).record rfl

/-- The prompt is written on both sides or on neither. -/
theorem promptFor (prompt : String) :
    Confined b (c.promptFor prompt) b' (c'.promptFor prompt) := by
  obtain ⟨hresult, hwritten⟩ := h.emit (encode prompt)
  unfold Console.promptFor Console.emitPrompt
  rcases he : c.emit (encode prompt) with ⟨_ | _, d⟩ <;>
    rcases he' : c'.emit (encode prompt) with ⟨_ | _, d'⟩ <;>
    rw [he, he'] at hresult hwritten
  · cases hresult
    exact hwritten.record rfl
  · cases hresult
  · cases hresult
  · exact hwritten

end Confined

end Console

namespace Host

/-- A host that does the same whatever is on the disk. -/
class Diskless (H : Type) [Host H] : Prop where
  /-- Reading brings the same. -/
  confined_readLine : ∀ {b c b' c' : Console} (prompt : Prompt) (host : H),
    b.Confined c b' c' →
      (readLine prompt host c').1 = (readLine prompt host c).1 ∧
        (readLine prompt host c').2.1 = (readLine prompt host c).2.1 ∧
        b.Confined (readLine prompt host c).2.2 b' (readLine prompt host c').2.2
  /-- Launching comes to the same. -/
  confined_launch : ∀ {b c b' c' : Console} (command : Command) (host : H),
    b.Confined c b' c' →
      (launch command host c').1 = (launch command host c).1 ∧
        (launch command host c').2.1 = (launch command host c).2.1 ∧
        b.Confined (launch command host c).2.2 b' (launch command host c').2.2

/-- A scripted launch comes to the same. -/
theorem confined_launchScripted {b c b' c' : Console} (command : Command)
    (launches : List ScriptedLaunch) (h : b.Confined c b' c') :
    (launchScripted command launches c').1 = (launchScripted command launches c).1 ∧
      (launchScripted command launches c').2.1 = (launchScripted command launches c).2.1 ∧
      b.Confined (launchScripted command launches c).2.2
        b' (launchScripted command launches c').2.2 := by
  cases launches with
  | nil => exact ⟨rfl, rfl, h⟩
  | cons item rest => exact ⟨rfl, rfl, h.signalIf item.signal⟩

instance : Diskless Script where
  confined_readLine {b c b' c'} _ s h := by
    change (s.readLine c').1 = (s.readLine c).1 ∧ (s.readLine c').2.1 = (s.readLine c).2.1 ∧
      b.Confined (s.readLine c).2.2 b' (s.readLine c').2.2
    unfold Script.readLine
    split
    · exact ⟨rfl, rfl, h⟩
    · exact ⟨rfl, rfl, h.signalIf _⟩
  confined_launch command s h := by
    obtain ⟨hresult, hleft, hconsole⟩ := confined_launchScripted command s.launches h
    exact ⟨hresult, congrArg (Script.mk s.reads) hleft, hconsole⟩

instance : Diskless Piped where
  confined_readLine prompt p h := ⟨rfl, rfl, h.promptFor prompt.text⟩
  confined_launch command p h := by
    obtain ⟨hresult, hleft, hconsole⟩ := confined_launchScripted command p.launches h
    exact ⟨hresult, congrArg (Piped.mk p.input) hleft, hconsole⟩

end Host

namespace Session

variable {H : Type}

/-- What happens from `s` to `t` happens likewise from `s'` to `t'`, attempts to write the history
apart, and the two come to differ at most in their files and in what has been told of these. -/
structure Confined (s t s' t' : Session H) : Prop where
  /-- They have the same history. -/
  history : t'.history = t.history
  /-- They have the same host. -/
  host : t'.host = t.host
  /-- Their surroundings differ at most in their disks. -/
  console : s.console.Confined t.console s'.console t'.console

/-- An attempt to write the history leaves its report in the log. -/
theorem exists_log_keep (s : Session H) :
    ∃ failure, s.keep.console.log = s.console.log ++ saveReport failure := by
  rcases s.log_keep with hkeep | ⟨e, hkeep⟩
  · exact ⟨none, hkeep⟩
  · exact ⟨some e, hkeep⟩

namespace Confined

variable {s t s' t' : Session H} (h : Confined s t s' t')

include h

theorem onConsole {c c' : Console} (hc : s.console.Confined c s'.console c') :
    Confined s { t with console := c } s' { t' with console := c' } :=
  ⟨h.history, h.host, hc⟩

theorem say (line : String) : Confined s (t.say line) s' (t'.say line) :=
  h.onConsole (h.console.emit _).2

theorem sayAll (lines : List String) : Confined s (t.sayAll lines) s' (t'.sayAll lines) := by
  induction lines generalizing t t' with
  | nil => exact h
  | cons line lines ih => exact ih (h.say line)

theorem list : Confined s t.list s' t'.list := by
  have hcleared : Confined s t.clearPending s' t'.clearPending :=
    h.onConsole (h.console.withPending false)
  have hnoted : Confined s (t.clearPending.record .interrupting)
      s' (t'.clearPending.record .interrupting) :=
    hcleared.onConsole (hcleared.console.record rfl)
  have hlisted := hnoted.sayAll (Recall.listing t.history.entries)
  rwa [Session.list, Session.list, h.history]

theorem remember (program : String) : Confined s (t.remember program) s' (t'.remember program) :=
  ⟨by rw [Session.remember, Session.remember, h.history], h.host, h.console⟩

/-- Each writes its history as well as it can. -/
theorem keep : Confined s t.keep s' t'.keep := by
  obtain ⟨failure, hkeep⟩ := t.exists_log_keep
  obtain ⟨failure', hkeep'⟩ := t'.exists_log_keep
  obtain ⟨events, events', hlog, hlog', hsame⟩ := h.console.log
  have hreported : s.console.Confined t.keep.console s'.console t'.keep.console := by
    refine ⟨by rw [out_keep, out_keep, h.console.out],
      by rw [pending_keep, pending_keep, h.console.pending],
      events ++ saveReport failure, events' ++ saveReport failure', ?_, ?_, hsame.save⟩
    · rw [hkeep, hlog, List.append_assoc]
    · rw [hkeep', hlog', List.append_assoc]
  exact ⟨by rw [history_keep, history_keep, h.history], by rw [host_keep, host_keep, h.host],
    hreported⟩

/-- What has happened since is the same on both sides, attempts to write the history apart. -/
theorem since : SameButSaves (s.since t) (s'.since t') := by
  obtain ⟨events, events', hlog, hlog', hsame⟩ := h.console.log
  rwa [since_eq hlog, since_eq hlog']

variable [Host H] [Host.Diskless H]

/-- A read brings the same to both. -/
theorem ask (prompt : Prompt) : (t'.ask prompt).1 = (t.ask prompt).1 ∧
    Confined s (t.ask prompt).2 s' (t'.ask prompt).2 := by
  have hview : (Event.asked prompt t.view).withoutFile =
      (Event.asked prompt t'.view).withoutFile := by
    simp [Event.withoutFile, Session.view, h.history, h.console.pending]
  have hread := Host.Diskless.confined_readLine prompt t'.host (h.console.record hview)
  rw [show Host.readLine prompt t'.host (t.console.record (.asked prompt t.view)) =
    Host.readLine prompt t.host (t.console.record (.asked prompt t.view)) by rw [h.host]] at hread
  obtain ⟨houtcome, hleft, hconsole⟩ := hread
  refine ⟨houtcome, h.history, hleft, ?_⟩
  exact hconsole.record (congrArg (Event.answered prompt) houtcome.symm)

/-- A launch comes to the same for both. -/
theorem launch (prompt : Prompt) (command : Command) :
    (t'.launch prompt command).1 = (t.launch prompt command).1 ∧
      Confined s (t.launch prompt command).2 s' (t'.launch prompt command).2 := by
  have hview : (Event.launching prompt command t.view).withoutFile =
      (Event.launching prompt command t'.view).withoutFile := by
    simp [Event.withoutFile, Session.view, h.history, h.console.pending]
  have hlaunch := Host.Diskless.confined_launch command t'.host (h.console.record hview)
  rw [show Host.launch command t'.host (t.console.record (.launching prompt command t.view)) =
    Host.launch command t.host (t.console.record (.launching prompt command t.view)) by
      rw [h.host]] at hlaunch
  obtain ⟨hresult, hleft, hconsole⟩ := hlaunch
  refine ⟨hresult, h.history, hleft, ?_⟩
  exact hconsole.record (congrArg (Event.launched prompt command) hresult.symm)

omit h in
/-- Sessions whose failures are confined go in lockstep. -/
theorem lockstep (s s' : Session H) : Lockstep fun t t' => Confined s t s' t' where
  history h := h.history
  pending h := h.console.pending
  ask h := h.ask
  launch h := h.launch
  list h := h.list
  say h := h.say
  warn h _ := h.onConsole (h.console.record rfl)
  complain h text := h.onConsole (h.console.complain text)
  remember h := h.remember
  keep h := h.keep
  finish h := h.onConsole h.console.flush

end Confined

/-- Sessions that begin with the same history, whatever disks and paths they are given to keep it,
come through the same stages with the same history, the same left to read and launch, the same
output and the same flag, and to the same end. What has happened up to each of them is the same,
attempts to write the history apart. The diagnostics are what was complained of. -/
theorem save_failures_confined [Host H] [Host.Aloof H] [Host.Diskless H]
    (settings settings' : Settings) (host : H) (console : Console) (disk' : Disk)
    (hload : (History.load disk' settings'.historyPath).1 =
      (History.load console.disk settings.historyPath).1) :
    let s := start settings host console
    let s' := start settings' host { console with disk := disk' }
    (∀ stage t, Path .polling s stage t → ∃ t', Path .polling s' stage t' ∧ Confined s t s' t') ∧
      s'.run.1 = s.run.1 ∧ Confined s s.run.2 s' s'.run.2 ∧ SameButSaves s.events s'.events ∧
      answersOf s'.events = answersOf s.events ∧ launchesOf s'.events = launchesOf s.events ∧
      s.run.2.console.diagnostics =
        console.diagnostics ++ (complaintsOf s.events).flatMap encode ∧
      s'.run.2.console.diagnostics =
        console.diagnostics ++ (complaintsOf s'.events).flatMap encode := by
  intro s s'
  have hbegun : Confined s s s' s' := by
    refine ⟨hload, rfl, .refl ?_ ?_⟩
    · rw [out_start, out_start settings host console]
    · rw [pending_start, pending_start settings host console]
  have hlockstep := Confined.lockstep s s'
  obtain ⟨hresult, hend⟩ := hlockstep.run hbegun
  obtain ⟨hanswers, hlaunches⟩ := hend.since.answersOf_launchesOf
  refine ⟨fun stage t hpath => hlockstep.along hbegun hpath, hresult, hend, hend.since, hanswers,
    hlaunches, ?_, ?_⟩
  · exact s.path_run.diagnostics.trans
      (congrArg (· ++ _) (diagnostics_start settings host console))
  · exact s'.path_run.diagnostics.trans
      (congrArg (· ++ _) (diagnostics_start settings' host { console with disk := disk' }))

/-- The second of two disks refuses the first write and has little room for the third, so that the
file is there but cut short: the first session repeats a program that is in its file, the second one
that is not, and both go on with it alike. -/
theorem save_failures_confined_of_refusals :
    let script : Script := ⟨[⟨.line "ls -l", true⟩, ⟨.line "r", false⟩, ⟨.line "pwd", false⟩,
      ⟨.line "id", true⟩, ⟨.line "no", false⟩], [⟨.fails (.invalidArgument "nul byte"), false⟩]⟩
    let refusing : Disk := { Disk.bare with
      obstacles := [some (.refusal (.system .accessDenied)), none,
        some (.shortage 4 (.system .noSpace))] }
    let s := start (Settings.withHistoryPath (encode "h")) script
      (Console.fresh Disk.bare Sink.unbounded)
    let s' := start (Settings.withHistoryPath (encode "h")) script
      (Console.fresh refusing Sink.unbounded)
    (complaintsOf s.events).length = 1 ∧ (complaintsOf s'.events).length = 3 ∧
      s.run.2.console.disk.content? s.path = some (encode "ls\npwd\nid\n") ∧
      s'.run.2.console.disk.content? s'.path = some (encode "ls\np") ∧
      s.run.2.history.entries = ["ls", "pwd", "id"] ∧ s'.run.2.history = s.run.2.history ∧
      s'.run.2.console.out = s.run.2.console.out ∧ launchesOf s'.events = launchesOf s.events ∧
      s'.run.1 = s.run.1 := by
  intro script refusing s s'
  have hload : (History.load refusing (Settings.withHistoryPath (encode "h")).historyPath).1 =
      (History.load Disk.bare (Settings.withHistoryPath (encode "h")).historyPath).1 := by
    decide +kernel
  obtain ⟨-, hresult, hend, -, -, hlaunches, -⟩ := save_failures_confined
    (Settings.withHistoryPath (encode "h")) (Settings.withHistoryPath (encode "h")) script
    (Console.fresh Disk.bare Sink.unbounded) refusing hload
  have hcomplaints : (complaintsOf s.events).length = 1 ∧ (complaintsOf s'.events).length = 3 := by
    decide +kernel
  have hfiles : s.run.2.console.disk.content? s.path = some (encode "ls\npwd\nid\n") ∧
      s'.run.2.console.disk.content? s'.path = some (encode "ls\np") := by
    decide +kernel
  have hentries : s.run.2.history.entries = ["ls", "pwd", "id"] := by decide +kernel
  exact ⟨hcomplaints.1, hcomplaints.2, hfiles.1, hfiles.2, hentries, hend.history,
    hend.console.out, hlaunches, hresult⟩

end Session

end RecallShell
