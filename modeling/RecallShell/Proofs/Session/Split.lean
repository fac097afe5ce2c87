import RecallShell.Proofs.History.Codec
import RecallShell.Proofs.Session.Extension
import RecallShell.Proofs.Session.Mirror

/-!
# A session in two parts

A scripted session that has used up its script when it asks for a command, with no interrupt waiting,
might as well go on with further reads. Instead of going on, it may end there and another session may
start on the file that it leaves behind: where the file gives back the history, the second session is
alike to what the first would have become.
-/

namespace RecallShell

open Text History

namespace Session

/-- As long as the history can be written and its file can be read in the end, and a file can keep
each program that has been recorded, the file gives back the history that the session ends with. -/
theorem load_of_run {H : Type} [Host H] [Host.Aloof H] {settings : Settings} {host : H}
    {console : Console} {initial : Option Bytes}
    (hinitial : console.disk.Bears settings.historyPath initial)
    (hsaved : AllSaved (start settings host console).events)
    (hstorable : ∀ program ∈ recorded (start settings host console).events,
      '\n' ∉ program.toList ∧ Storable program)
    (hreadable : (load (start settings host console).run.2.console.disk
      settings.historyPath).2 = none) :
    (load (start settings host console).run.2.console.disk settings.historyPath).1 =
      (start settings host console).run.2.history := by
  have hdisk := disk_start settings host console
  have hpath : (start settings host console).path = settings.historyPath := rfl
  have hstart : (start settings host console).history = (load console.disk settings.historyPath).1 :=
    history_start settings host console
  generalize start settings host console = s at *
  have hroom : s.run.2.history.capacity = defaultCapacity := by
    rw [s.path_run.recounts.2.room, hstart, History.capacity_load]
  have hentries : s.run.2.history.entries =
      newest s.history.capacity (s.history.entries ++ recorded s.events) :=
    s.path_run.entries_eq rfl rfl
  have hreflects : s.run.2.Reflects (· = console.disk) s.path (.over s.run.1) s.events := by
    refine s.path_run.reflects s.undisturbed_of_aloof ?_ hdisk (hdisk ▸ hpath ▸ hinitial) hsaved
    intro stage t _ hfirst
    rwa [diskAfterHost_eq]
  have hfollows := hreflects.settled rfl
  rw [hpath] at hfollows
  by_cases hnone : recorded s.events = []
  · rw [hfollows.before hnone, ← hstart]
    refine History.eq_of_entries ?_ ?_
    · rw [hroom, hstart, History.capacity_load]
    · rw [hentries, hnone, List.append_nil, History.newest_entries]
  · refine History.eq_of_entries (by rw [hroom, History.capacity_load]) ?_
    have hkept : ∀ entry ∈ s.run.2.history.entries, '\n' ∉ entry.toList ∧ Storable entry := by
      intro entry he
      rw [hentries] at he
      rcases List.mem_append.1 (mem_of_mem_newest he) with hloaded | hrecorded
      · rw [hstart] at hloaded
        exact lasting_iff.1 (lasting_of_mem_load hloaded)
      · exact hstorable entry hrecorded
    have hlength : s.run.2.history.entries.length ≤ defaultCapacity :=
      hroom ▸ s.run.2.history.length_le
    rw [entries_load_of_holds (hfollows.after hnone) (fun entry he => (hkept entry he).1) hlength
      hreadable]
    exact filterMap_survivor?_eq_self_iff.2 fun entry he => (hkept entry he).2

/-- A session whose output does not fail is alike to itself. -/
theorem Alike.refl {s : Session Script} (h : s.console.out.Lossless) : Alike s s :=
  ⟨rfl, rfl, rfl, rfl, rfl, h, h⟩

/-- Along a path an output that does not fail only accepts more. -/
theorem Path.accepts {a b : Stage} {s t : Session Script} (h : Path a s b t)
    (hout : s.console.out.Lossless) :
    t.console.out.Lossless ∧
      ∃ said, t.console.out.accepted = s.console.out.accepted ++ said := by
  induction h with
  | refl => exact ⟨hout, [], by rw [List.append_nil]⟩
  | step _ hs ih =>
    obtain ⟨hlossless, said, hsaid⟩ := ih
    obtain ⟨_, hs', halike, more, hmore, -⟩ := hs.inStep (Alike.refl hlossless)
    obtain ⟨-, rfl⟩ := hs.unique hs'
    exact ⟨halike.lossless, said ++ more, by rw [hmore, hsaid, List.append_assoc]⟩

/-- Sessions that start alike are alike. -/
theorem alike_start {settings : Settings} {host : Script} {console console' : Console}
    (hdisk : console'.disk = console.disk) (hpending : console'.pending = console.pending)
    (hout : console.out.Lossless) (hout' : console'.out.Lossless) :
    Alike (start settings host console) (start settings host console') where
  path := rfl
  history := by rw [history_start, history_start, hdisk]
  host := rfl
  disk := by rw [disk_start, disk_start, hdisk]
  pending := by rw [pending_start, pending_start, hpending]
  lossless := by rwa [out_start]
  lossless' := by rwa [out_start]

/-- A session asks for one read more than its script holds, and it does so for a command with no
interrupt waiting. -/
def UsesUp (s : Session Script) : Prop :=
  ∃ asked, questionsOf s.events = asked ++ [(.command, false)] ∧
    asked.length = s.host.reads.length

/-- A session leaves a file behind that gives back what it has recorded: it could always write the
history, the file can be read in the end, and it can keep each program. -/
structure Restorable (s : Session Script) : Prop where
  /-- Every attempt to write the history has succeeded. -/
  saved : AllSaved s.events
  /-- The file can be read in the end. -/
  readable : (load s.run.2.console.disk s.path).2 = none
  /-- The programs take one line each, do not end in a carriage return and are not blank. -/
  programs : ∀ program ∈ recorded s.events, '\n' ∉ program.toList ∧
    program.toList.getLast? ≠ some '\r' ∧ allBlank program.toList = false

/-- A file can keep each program that such a session has recorded. -/
theorem Restorable.storable {s : Session Script} (h : s.Restorable) {program : String}
    (hp : program ∈ recorded s.events) : '\n' ∉ program.toList ∧ Storable program := by
  obtain ⟨hplain, hend, hblank⟩ := h.programs program hp
  have hlasting : Lasting program := ⟨hplain, hend, by simpa [allBlank] using hblank⟩
  exact lasting_iff.1 hlasting

/-- A session goes on with further reads like another one that starts where it has come to the end
of its script. -/
theorem run_extend {s t r : Session Script} {more : List ScriptedRead}
    (hpath : Path .polling s .prompting t)
    (hextended : Path .polling (s.extend more) .prompting (t.extend more))
    (hreads : t.host.reads = []) (hout : s.console.out.Lossless)
    (halike : Alike (t.extend more) r) (hclear : r.console.pending = false) :
    (s.extend more).run.1 = r.run.1 ∧ Alike (s.extend more).run.2 r.run.2 ∧
      launchesOf (s.extend more).events = launchesOf s.events ++ launchesOf r.events ∧
      (s.extend more).output = s.output ++ r.output := by
  obtain ⟨r', hpath', ⟨halike', said, hsaid, hsaid'⟩, hlaunches⟩ := hextended.to_end.inStep halike
  obtain ⟨-, before, hbefore⟩ := hpath.accepts hout
  obtain ⟨hquiet, haccepted⟩ := quiet_of_end_of_script hpath hreads
  have hrun : r.run = ((s.extend more).run.1, r') :=
    ((Step.idle hclear).path.trans hpath').over_unique
  have hsince : (s.extend more).since (t.extend more) = s.since t := rfl
  refine ⟨by rw [hrun], by rw [hrun]; exact halike', ?_, ?_⟩
  · have hevents : r.events = r.since r' := congrArg r.since (congrArg Prod.snd hrun)
    rw [hextended.events_eq, launchesOf_append, hsince, hquiet, ← hlaunches, hevents]
  · have hfirst : s.output = before := by
      rw [output, haccepted, hbefore, List.drop_left]
    have hsecond : r.output = said := by
      rw [output, hrun, hsaid', List.drop_left]
    have hwhole : (s.extend more).run.2.console.out.accepted =
        (s.extend more).console.out.accepted ++ (before ++ said) := by
      rw [hsaid, ← List.append_assoc]
      exact congrArg (· ++ said) hbefore
    rw [output, hwhole, List.drop_left, hfirst, hsecond]

/-- A session that uses up its script and leaves a file behind that gives back what it has recorded
might as well have gone on: with a second session that starts on that file and plays back what
follows, it launches the same commands and says the same as one session that plays back everything,
and the second one comes to the same end, with the same history and the same disk. -/
theorem restart_unnoticed (settings : Settings) {reads reads' : List ScriptedRead}
    {launches : List ScriptedLaunch} {console console' joint : Console} {initial : Option Bytes}
    (hinitial : console.disk.Bears settings.historyPath initial)
    (husesUp : (start settings (⟨reads, launches⟩ : Script) console).UsesUp)
    (hrestorable : (start settings (⟨reads, launches⟩ : Script) console).Restorable)
    (hdisk' : console'.disk =
      (start settings (⟨reads, launches⟩ : Script) console).run.2.console.disk)
    (hclear' : console'.pending = false)
    (hdisk : joint.disk = console.disk) (hpending : joint.pending = console.pending)
    (hout : console.out.Lossless) (hout' : console'.out.Lossless) (hjoint : joint.out.Lossless) :
    let first := start settings (⟨reads, launches⟩ : Script) console
    let second := start settings (⟨reads', first.run.2.host.launches⟩ : Script) console'
    let whole := start settings (⟨reads ++ reads', launches⟩ : Script) joint
    launchesOf whole.events = launchesOf first.events ++ launchesOf second.events ∧
      whole.output = first.output ++ second.output ∧
      whole.run.2.history = second.run.2.history ∧
      whole.run.2.console.disk = second.run.2.console.disk ∧ whole.run.1 = second.run.1 := by
  intro first second whole
  obtain ⟨asked, hasked, hlength⟩ := husesUp
  obtain ⟨t, hpath, hextended, hreads, hpending'⟩ := reaches_end_of_script hasked hlength reads'
  have hrun : first.run.2 = (t.ask .command).2.finish :=
    congrArg Prod.snd (run_of_end_of_script hpath hreads)
  obtain ⟨hhistory, hhost, hkept⟩ := finish_at_end_of_script hreads
  rw [← hrun] at hhistory hhost hkept
  have hsecond : Alike (t.extend reads') second := by
    refine ⟨hpath.path_eq.symm, ?_, ?_, ?_, ?_, ?_, ?_⟩
    · have hload := load_of_run hinitial hrestorable.saved
        (fun _ hp => hrestorable.storable hp) hrestorable.readable
      rw [← hdisk'] at hload
      exact hload.trans hhistory
    · change Script.mk reads' first.run.2.host.launches = _
      rw [hhost, extend, hreads]
      rfl
    · exact (disk_start _ _ _).trans (hdisk'.trans hkept)
    · exact (pending_start _ _ _).trans (hclear'.trans hpending'.symm)
    · exact (hpath.accepts ((out_start _ _ _).symm ▸ hout)).1
    · exact (out_start _ _ _).symm ▸ hout'
  have hwhole : Alike (first.extend reads') whole := by
    have h : Alike (start settings ⟨reads ++ reads', launches⟩ console) whole :=
      alike_start hdisk hpending hout hjoint
    exact h
  obtain ⟨hresult, halike, hlaunches, houtput⟩ := run_extend hpath hextended hreads
    ((out_start _ _ _).symm ▸ hout) hsecond ((pending_start _ _ _).trans hclear')
  obtain ⟨hresult', hin, hlaunches'⟩ := hwhole.run
  exact ⟨hlaunches'.trans hlaunches, hin.output_eq.trans houtput,
    hin.1.history.trans halike.history.symm, hin.1.disk.trans halike.disk.symm,
    hresult'.trans hresult⟩

/-- A session that launches `ls -l` and is interrupted, and one that repeats `ls` from the file and
launches `pwd`: together they are like one session, even one whose output takes a byte at a time. -/
theorem restart_unnoticed_of_repeat :
    let settings := Settings.withHistoryPath (encode "h")
    let reads : List ScriptedRead :=
      [⟨.line "ls -l", false⟩, ⟨.interrupted, false⟩, ⟨.line "n", false⟩]
    let reads' : List ScriptedRead :=
      [⟨.interrupted, false⟩, ⟨.line "r", false⟩, ⟨.line "pwd", false⟩]
    let first := start settings (⟨reads, []⟩ : Script) (Console.fresh Disk.bare Sink.unbounded)
    let second := start settings (⟨reads', first.run.2.host.launches⟩ : Script)
      (Console.fresh first.run.2.console.disk Sink.unbounded)
    let whole := start settings (⟨reads ++ reads', []⟩ : Script)
      (Console.fresh Disk.bare { Sink.unbounded with chunk := some 1 })
    launchesOf first.events = [(.command, Command.foreground ["ls", "-l"])] ∧
      launchesOf second.events =
        [(.offer, Command.foreground ["ls"]), (.command, Command.foreground ["pwd"])] ∧
      launchesOf whole.events = launchesOf first.events ++ launchesOf second.events ∧
      whole.output = first.output ++ second.output ∧
      whole.run.2.history = second.run.2.history := by
  intro settings reads reads' first second whole
  have hmissing : Disk.bare.Missing (encode "h") := ⟨.system .noEntry, by decide +kernel, by decide⟩
  have husesUp : first.UsesUp :=
    ⟨[(.command, false), (.command, false), (.offer, false)], by decide +kernel, rfl⟩
  have hrecorded : recorded first.events = ["ls"] := by decide +kernel
  have hrestorable : first.Restorable := by
    refine ⟨by decide +kernel, by decide +kernel, ?_⟩
    rw [hrecorded]
    decide +kernel
  have hbytes : ({ Sink.unbounded with chunk := some 1 } : Sink).Lossless :=
    ⟨rfl, by decide, nofun, rfl⟩
  have hshared : (Console.fresh first.run.2.console.disk Sink.unbounded).disk =
      first.run.2.console.disk := rfl
  have hjoint : (Console.fresh Disk.bare { Sink.unbounded with chunk := some 1 }).disk =
      (Console.fresh Disk.bare Sink.unbounded).disk := rfl
  obtain ⟨hlaunches, houtput, hhistory, -, -⟩ := restart_unnoticed settings
    (hmissing.bears Disk.sound_bare) husesUp hrestorable hshared rfl hjoint rfl
    Sink.lossless_unbounded Sink.lossless_unbounded hbytes
  exact ⟨by decide +kernel, by decide +kernel, hlaunches, houtput, hhistory⟩

end Session

end RecallShell
