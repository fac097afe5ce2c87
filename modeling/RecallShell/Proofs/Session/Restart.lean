import RecallShell.Proofs.Disk.Keeping
import RecallShell.Proofs.History.Reload
import RecallShell.Proofs.Host.Reading
import RecallShell.Proofs.Session.Record

/-!
# What a restart brings back

As long as the history file can be written, it holds the history from the first program on that is
recorded. A session that starts on that file has the history that the file gives back. This is the
one that the first session ended with exactly when the file can keep each of its entries: not those
that end in a carriage return, which it gives back without, nor those that are blank, which it does
not give back.
-/

namespace RecallShell

open Text History

/-- Every attempt to write the history to its file has succeeded. -/
def AllSaved (events : List Event) : Prop :=
  ∀ failure, Event.saved failure ∈ events → failure = none

/-- Whether an event is an attempt to write the history that has failed. -/
def Event.isFailedSave : Event → Bool
  | .saved failure => failure.isSome
  | _ => false

/-- Every attempt has succeeded if none has failed. -/
theorem allSaved_iff {events : List Event} :
    AllSaved events ↔ ∀ event ∈ events, event.isFailedSave = false := by
  constructor
  · intro h event he
    cases event with
    | saved failure => simp [Event.isFailedSave, h failure he]
    | _ => rfl
  · intro h failure he
    simpa [Event.isFailedSave] using h _ he

instance (events : List Event) : Decidable (AllSaved events) := decidable_of_iff _ allSaved_iff.symm

/-- The file at a path keeps some entries; as long as there are none the disk may be as at first. -/
def Kept (first : Disk) (path : Bytes) (entries : List String) (disk : Disk) : Prop :=
  entries = [] ∧ disk = first ∨ disk.Holds path (contentOf entries)

/-- How the disk stands to the history at a stage. The file is behind only while it is about to be
written; a line that has been read has one program to add, which takes one line of the file. -/
def Stage.Mirrored (first : Disk) (path : Bytes) (entries : List String) (disk : Disk) :
    Stage → Prop
  | .keeping .. => disk = first ∨ ∃ old, disk.Holds path old
  | .heard (.line line) => '\n' ∉ line.toList ∧ Kept first path entries disk
  | _ => Kept first path entries disk

theorem Stage.mirrored_resumed {first : Disk} {path : Bytes} {entries : List String}
    {disk : Disk} (waited : Bool) :
    (Stage.resumed waited).Mirrored first path entries disk ↔ Kept first path entries disk := by
  cases waited <;> rfl

/-- A history whose file is missing is empty. -/
theorem History.load_of_missing {disk : Disk} {path : Bytes} (h : disk.Missing path) :
    load disk path = (empty, none) := by
  obtain ⟨e, hr, hk⟩ := h
  rw [load, hr]
  simp only [loadWarning?, hk, if_true]
  rfl

/-- A file that holds some entries, and can be read, gives them back as far as it can. -/
theorem entries_load_of_holds {disk : Disk} {path : Bytes} {entries : List String}
    (hholds : disk.Holds path (contentOf entries))
    (hplain : ∀ entry ∈ entries, '\n' ∉ entry.toList)
    (hlength : entries.length ≤ defaultCapacity) (hreadable : (load disk path).2 = none) :
    (load disk path).1.entries = entries.filterMap survivor? := by
  rcases hholds.read with hread | ⟨e, hread, hkind⟩
  · rw [load, hread]
    exact entries_ofContent_contentOf hplain hlength
  · rw [load, hread] at hreadable
    simp [loadWarning?, hkind] at hreadable

/-- So does a file that keeps them, which may be missing as long as there are none. -/
theorem entries_load_of_kept {first disk : Disk} {path : Bytes} {entries : List String}
    (hmissing : first.Missing path) (hkept : Kept first path entries disk)
    (hplain : ∀ entry ∈ entries, '\n' ∉ entry.toList)
    (hlength : entries.length ≤ defaultCapacity) (hreadable : (load disk path).2 = none) :
    (load disk path).1.entries = entries.filterMap survivor? := by
  rcases hkept with ⟨rfl, rfl⟩ | hholds
  · rw [load_of_missing hmissing]
    rfl
  · exact entries_load_of_holds hholds hplain hlength hreadable

namespace Session

variable {H : Type}

/-- A session starts with the history from its file. -/
theorem history_start (settings : Settings) (host : H) (console : Console) :
    (start settings host console).history = (load console.disk settings.historyPath).1 := rfl

/-- The session has not lost anything: its entries take one line each, and the disk stands to them
as it should. -/
structure Mirrors (first : Disk) (path : Bytes) (stage : Stage) (s : Session H) : Prop where
  /-- The history is kept where it was. -/
  place : s.path = path
  /-- The entries hold no line feeds. -/
  entries : ∀ entry ∈ s.history.entries, '\n' ∉ entry.toList
  /-- The disk stands to the entries as it should. -/
  disk : stage.Mirrored first path s.history.entries s.console.disk

/-- Where neither the history nor the disk changes nothing is lost. -/
theorem Mirrors.step {first : Disk} {path : Bytes} {a b : Stage} {s t : Session H}
    (h : s.Mirrors first path a) (hpath : t.path = s.path) (hhistory : t.history = s.history)
    (hdisk : t.console.disk = s.console.disk)
    (hb : a.Mirrored first path s.history.entries s.console.disk →
      b.Mirrored first path s.history.entries s.console.disk) : t.Mirrors first path b where
  place := hpath.trans h.place
  entries := by
    rw [hhistory]
    exact h.entries
  disk := by
    rw [hhistory, hdisk]
    exact hb h.disk

variable [Host H] [Host.Aloof H] [Host.Linewise H]

/-- As long as every attempt to write the history succeeds, no step loses anything. -/
theorem Step.mirrors {first : Disk} {path : Bytes} {a b : Stage} {s t : Session H}
    {new : List Event} (hs : Step a s b t) (hsound : first.Sound) (hmissing : first.Missing path)
    (h : s.Mirrors first path a) (hlog : t.console.log = s.console.log ++ new)
    (hsaved : AllSaved new) : t.Mirrors first path b := by
  cases hs with
  | idle => exact h.step rfl rfl rfl id
  | notice => exact h.step rfl rfl rfl id
  | list =>
    obtain ⟨said, hc, -⟩ := s.calm_list
    exact h.step (path_sayAll _ _) (history_sayAll _ _) hc.disk id
  | answer => exact h.step rfl rfl (s.disk_ask .offer) id
  | @silence waited =>
    exact h.step rfl rfl (s.disk_ask .offer) (Stage.mirrored_resumed waited).2
  | @decline waited => exact h.step rfl rfl rfl (Stage.mirrored_resumed waited).2
  | @nothing waited =>
    obtain ⟨_, hc, -⟩ := s.calm_say Recall.nothingToRepeat
    exact h.step rfl rfl hc.disk (Stage.mirrored_resumed waited).2
  | @accept _ _ _ entry =>
    obtain ⟨_, hc, -⟩ := s.calm_say (Recall.announcement entry)
    exact h.step rfl rfl hc.disk id
  | @again waited =>
    exact h.step rfl rfl (s.disk_launch _ _) (Stage.mirrored_resumed waited).2
  | @againFailed waited _ entry e =>
    obtain ⟨_, hc⟩ := (s.launch .offer (Command.ofEntry entry)).2.calm_warn_say
      (Recall.failureWarning entry e) (Recall.failureLine e)
    exact h.step rfl rfl (hc.disk.trans (s.disk_launch _ _)) (Stage.mirrored_resumed waited).2
  | hear =>
    refine h.step rfl rfl (s.disk_ask .command) fun hk => ?_
    cases ho : (s.ask .command).1 with
    | line line => exact ⟨Host.Linewise.newline_not_mem _ _ _ _ ho, hk⟩
    | _ => exact hk
  | blank => exact h.step rfl rfl rfl And.right
  | @remember _ line program hp =>
    refine ⟨h.place, ?_, ?_⟩
    · intro entry he
      rw [Session.remember, History.entries_append] at he
      rcases List.mem_append.1 (mem_of_mem_newest he) with he | he
      · exact h.entries entry he
      · rw [List.mem_singleton.1 he]
        exact Command.newline_not_mem_program h.disk.1 hp
    · rcases h.disk.2 with ⟨-, hfirst⟩ | hholds
      · exact Or.inl hfirst
      · exact Or.inr ⟨_, hholds⟩
  | cut => exact h.step rfl rfl rfl id
  | finish =>
    obtain ⟨_, hc, -⟩ := s.console.calm_flush
    exact h.step rfl rfl hc.disk id
  | fail => exact h.step rfl rfl rfl id
  | keep =>
    rcases hw : s.history.save s.path s.console.disk with ⟨_ | e, disk⟩
    · rename_i e
      rw [log_keep_of_error hw] at hlog
      have hnew := List.append_cancel_left hlog
      cases hsaved (some e) (by simp [← hnew])
    · have hbefore : ∃ old, s.console.disk.Bears path old := by
        rcases h.disk with hfirst | ⟨old, hholds⟩
        · rw [hfirst]
          exact ⟨none, hmissing.bears hsound⟩
        · exact ⟨some old, hholds⟩
      have hwritten := History.write_of_save hw
      rw [h.place] at hwritten
      rw [keep_of_ok hw]
      obtain ⟨_, hbears⟩ := hbefore
      exact ⟨h.place, h.entries, Or.inr (hbears.write hwritten)⟩
  | launched => exact h.step rfl rfl (s.disk_launch _ _) id
  | complain => exact h.step rfl rfl (s.disk_launch _ _) id
  | fatal => exact h.step rfl rfl (s.disk_launch _ _) id

/-- As long as every attempt to write the history succeeds, nothing is lost along a path. -/
theorem Path.mirrors {stage : Stage} {s t : Session H} (h : Path .polling s stage t)
    (hsound : s.console.disk.Sound) (hmissing : s.console.disk.Missing s.path)
    (hempty : s.history.entries = []) (hsaved : AllSaved (s.since t)) :
    t.Mirrors s.console.disk s.path stage := by
  have hstart : s.Mirrors s.console.disk s.path .polling := by
    refine ⟨rfl, ?_, Or.inl ⟨hempty, rfl⟩⟩
    rw [hempty]
    exact fun _ he => absurd he List.not_mem_nil
  -- The log is accounted for along with the disk, for what a step adds to it.
  have hinv := h.invariant
    (J := fun stage u events => u.Recounts s.history.capacity s.history.entries stage events ∧
      (AllSaved events → u.Mirrors s.console.disk s.path stage))
    ⟨⟨rfl, throughout_nil _, rfl⟩, fun _ => hstart⟩ ?_
  · exact hinv.2.2 hsaved
  · rintro b t c u xs hs ⟨hrecounts, hmirrors⟩
    obtain ⟨new, hlog, hrecounts'⟩ := hs.recounts hrecounts
    refine ⟨new, hlog, hrecounts', fun hall => ?_⟩
    exact hs.mirrors hsound hmissing
      (hmirrors fun failure he => hall failure (List.mem_append_left _ he)) hlog
      fun failure he => hall failure (List.mem_append_right _ he)

end Session

namespace Session

/-- Whatever bytes are piped into a session that starts without a history file, and whatever its
launches come to: as long as every attempt to write the history succeeds and the file can be read in
the end, a session that starts on what is left behind has the history without the terminators at the
ends of its entries, and without the blank ones. It has the same history exactly when a file can
keep each entry. -/
theorem history_of_restart {H : Type} (settings : Settings) (host : Piped) (console : Console)
    (host' : H) (console' : Console) (hsound : console.disk.Sound)
    (hmissing : console.disk.Missing settings.historyPath)
    (hsaved : AllSaved (start settings host console).events)
    (hdisk : console'.disk = (start settings host console).run.2.console.disk)
    (hreadable : (History.load console'.disk settings.historyPath).2 = none) :
    let before := (start settings host console).run.2.history.entries
    let after := (start settings host' console').history.entries
    after = before.filterMap survivor? ∧ (after = before ↔ ∀ entry ∈ before, Storable entry) := by
  intro before after
  have hstart : start settings host console =
      { path := settings.historyPath, history := empty, host := host, console := console } := by
    simp only [start, load_of_missing hmissing]
  have hrecounts := (start settings host console).path_run.recounts.2
  have hmirrors : (start settings host console).run.2.Mirrors console.disk settings.historyPath
      (.over (start settings host console).run.1) := by
    have h := (start settings host console).path_run.mirrors
    rw [hstart] at h hsaved ⊢
    exact h hsound hmissing rfl hsaved
  have hlength : before.length ≤ defaultCapacity := by
    have h := (start settings host console).run.2.history.length_le
    rw [hrecounts.room, history_start, History.capacity_load] at h
    exact h
  have hafter : after = before.filterMap survivor? := by
    have hkept := hmirrors.disk
    rw [← hdisk] at hkept
    change (start settings host' console').history.entries = _
    rw [history_start]
    exact entries_load_of_kept hmissing hkept hmirrors.entries hlength hreadable
  rw [hafter]
  exact ⟨rfl, filterMap_survivor?_eq_self_iff⟩

/-- The carriage return at the end of `a` does not come back. -/
theorem history_of_restart_of_carriageReturn :
    let first := start (Settings.withHistoryPath (encode "h"))
      (⟨⟨[], [.bytes (encode "a\r b\nls\n")]⟩, []⟩ : Piped)
      (Console.fresh Disk.bare Sink.unbounded)
    let second := start (Settings.withHistoryPath (encode "h")) (⟨[], []⟩ : Script)
      (Console.fresh first.run.2.console.disk Sink.unbounded)
    first.run.2.history.entries = ["a\r", "ls"] ∧ second.history.entries = ["a", "ls"] ∧
      second.history.entries ≠ first.run.2.history.entries := by
  intro first second
  have hentries : first.run.2.history.entries = ["a\r", "ls"] := by decide +kernel
  have hmissing : Disk.bare.Missing (encode "h") :=
    ⟨.system .noEntry, by decide +kernel, by decide⟩
  have hsaved : AllSaved first.events := by
    have hall : (first.events.all fun event => match event with
        | .saved failure => failure.isNone
        | _ => true) = true := by decide +kernel
    intro failure he
    simpa using List.all_eq_true.1 hall _ he
  have hreadable : (load first.run.2.console.disk (encode "h")).2 = none := by decide +kernel
  obtain ⟨hafter, hiff⟩ := history_of_restart (Settings.withHistoryPath (encode "h")) _ _
    (⟨[], []⟩ : Script) (Console.fresh first.run.2.console.disk Sink.unbounded) Disk.sound_bare
    hmissing hsaved rfl hreadable
  refine ⟨hentries, ?_, fun he => ?_⟩
  · refine hafter.trans ?_
    change first.run.2.history.entries.filterMap survivor? = _
    rw [hentries]
    decide +kernel
  · have hstorable : Storable "a\r" := by
      refine hiff.1 he "a\r" ?_
      change "a\r" ∈ first.run.2.history.entries
      rw [hentries]
      exact List.mem_cons_self
    exact absurd (hstorable.unterminated '\r' (by decide)) (by decide)

end Session

end RecallShell
