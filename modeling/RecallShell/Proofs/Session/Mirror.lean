import RecallShell.Proofs.Session.Effect
import RecallShell.Proofs.Session.Restart

/-!
# The file follows the history

As long as every attempt to write the history succeeds and nobody else touches its file, the file
stands to the history as it should whenever something is asked for or launched: it is as it was at
first until a program is recorded, and from then on it holds the entries, each followed by a line
feed. So it holds the program of a line before that line's command is launched, and it is the same
before and after an interrupt is handled.
-/

namespace RecallShell

open Text History

/-- How the disk stands to the history: as at first until a program is recorded, and from then on
its file holds the entries. -/
structure Follows (first : Disk → Prop) (path : Bytes) (entries recorded : List String)
    (disk : Disk) : Prop where
  /-- Nothing is written before a program is recorded. -/
  before : recorded = [] → first disk
  /-- From then on the file holds the entries. -/
  after : recorded ≠ [] → disk.Holds path (contentOf entries)

namespace Session

variable {H : Type} [Host H]

/-- Nobody but the session touches what stands under the path of the history: whenever the host
acts, it leaves that as it was. -/
def Undisturbed (s : Session H) : Prop :=
  ∀ {stage : Stage} {t : Session H}, Path .polling s stage t →
    ∀ content, t.console.disk.Bears s.path content →
      (t.diskAfterHost stage).Bears s.path content

/-- An aloof host leaves the whole disk alone. -/
theorem undisturbed_of_aloof [Host.Aloof H] (s : Session H) : s.Undisturbed := by
  intro stage t _ content h
  rwa [diskAfterHost_eq]

variable [Host.Discreet H]

/-- The disk stands to the history as it should, but for a program that is still to be written. -/
structure Reflects (first : Disk → Prop) (path : Bytes) (stage : Stage) (s : Session H)
    (events : List Event) : Prop where
  /-- The history is kept where it was. -/
  place : s.path = path
  /-- Something definite stands under its path. -/
  stands : ∃ content, s.console.disk.Bears path content
  /-- Unless the file is behind, it follows the history. -/
  settled : stage.isBehind = false →
    Follows first path s.history.entries (recorded events) s.console.disk
  /-- What is due has been recorded. -/
  due : stage.due ≠ [] → recorded events ≠ []
  /-- What has just been added to the history is the newest entry, and the program of its command. -/
  added : ∀ {program command}, stage.added? = some (program, command) →
    recorded events ≠ [] ∧ s.history.entries.getLast? = some program ∧
      command.program? = some program

/-- As long as the history can be written, each step keeps the disk as it should be. -/
theorem Step.reflects {first : Disk → Prop} {path : Bytes} {a b : Stage} {s t : Session H}
    {events new : List Event} (hs : Step a s b t) (h : s.Reflects first path a events)
    (hundisturbed : ∀ content, s.console.disk.Bears path content →
      (s.diskAfterHost a).Bears path content)
    (hfirst : first s.console.disk → first (s.diskAfterHost a))
    (hlog : t.console.log = s.console.log ++ new) (hsaved : AllSaved new) :
    t.Reflects first path b (events ++ new) := by
  cases hs.effect hlog with
  | @remembers line program ha hprogram hb ht hnew =>
    subst ha hb ht hnew
    rw [List.append_nil]
    have hrecorded : recorded events ≠ [] := h.due (by simp [Stage.due, hprogram])
    refine ⟨h.place, h.stands, fun hbehind => Bool.noConfusion hbehind,
      fun hdue => absurd rfl hdue, ?_⟩
    rintro _ _ ⟨⟩
    refine ⟨hrecorded, ?_, hprogram⟩
    rw [Session.remember, History.entries_append, getLast?_newest s.history.capacity_pos]
    simp
  | @keeps program command ha hb ht =>
    subst ha hb ht
    obtain ⟨hrecorded, hnewest, hprogram⟩ := h.added rfl
    rcases hw : s.history.save s.path s.console.disk with ⟨_ | e, disk⟩
    · rename_i e
      rw [log_keep_of_error hw] at hlog
      have hnew := List.append_cancel_left hlog
      cases hsaved (some e) (by simp [← hnew])
    · have hwritten := History.write_of_save hw
      rw [h.place] at hwritten
      obtain ⟨_, hbears⟩ := h.stands
      have hholds := hbears.write hwritten
      have hgrown : recorded (events ++ new) ≠ [] := by simp [hrecorded]
      rw [keep_of_ok hw]
      refine ⟨h.place, ⟨some _, hholds⟩, fun _ => ⟨fun hn => absurd hn hgrown, fun _ => hholds⟩,
        fun hdue => absurd rfl hdue, ?_⟩
      rintro _ _ ⟨⟩
      exact ⟨hgrown, hnewest, hprogram⟩
  | leaves hhistory hdisk hrecorded ha hb =>
    obtain ⟨content, hbears⟩ := h.stands
    have hfollows := h.settled ha
    refine ⟨hs.path_eq.trans h.place, ⟨content, ?_⟩, fun hbehind => ?_, fun hdue => ?_, ?_⟩
    · rw [hdisk]
      exact hundisturbed content hbears
    · rw [hhistory, hdisk, recorded_append, hrecorded, Stage.due_eq_nil hbehind, List.append_nil]
      refine ⟨fun hn => hfirst (hfollows.before hn), fun hn => ?_⟩
      exact hundisturbed (some _) (hfollows.after hn)
    · rw [recorded_append, hrecorded]
      exact List.append_ne_nil_of_right_ne_nil _ hdue
    · intro _ _ hadded
      rw [hb] at hadded
      cases hadded

/-- If a session could write its history whenever it tried, it could at any of its steps. -/
theorem Path.allSaved {b c : Stage} {s t u : Session H} (h : Path .polling s b t)
    (hs : Step b t c u) (hsaved : AllSaved s.events) : AllSaved (t.since u) := by
  intro failure he
  refine hsaved failure ?_
  rw [(h.step hs).events_eq, h.since_append hs.path]
  exact List.mem_append_left _ (List.mem_append_right _ he)

/-- As long as every attempt to write the history succeeds and nobody disturbs its file, the disk
is as it should be at every stage. -/
theorem Path.reflects {first : Disk → Prop} {stage : Stage} {s t : Session H}
    (h : Path .polling s stage t) (hundisturbed : s.Undisturbed)
    (hfirst : ∀ {stage : Stage} {t : Session H}, Path .polling s stage t →
      first t.console.disk → first (t.diskAfterHost stage))
    (hstart : first s.console.disk) {content : Option Bytes}
    (hbears : s.console.disk.Bears s.path content) (hsaved : AllSaved s.events) :
    t.Reflects first s.path stage (s.since t) := by
  have hinit : s.Reflects first s.path .polling [] :=
    ⟨rfl, ⟨content, hbears⟩, fun _ => ⟨fun _ => hstart, fun hn => absurd rfl hn⟩,
      fun hdue => absurd rfl hdue, nofun⟩
  -- The stage stays on the path of the session, where its host is known to leave the file alone.
  have hinv := h.invariant
    (J := fun stage u events => Path .polling s stage u ∧ u.Reflects first s.path stage events)
    ⟨.refl, hinit⟩ ?_
  · exact hinv.2.2
  · rintro b t c u xs hs ⟨hpath, hreflects⟩
    exact ⟨t.since u, hs.path.log, hpath.step hs, hs.reflects hreflects (hundisturbed hpath)
      (hfirst hpath) hs.path.log (hpath.allSaved hs hsaved)⟩

end Session

/-- What should stand under the path of the history: what stood there at first until a program is
recorded, and from then on a file that holds the entries. -/
def mirrored (initial : Option Bytes) (entries recorded : List String) : Option Bytes :=
  if recorded.isEmpty then initial else some (contentOf entries)

/-- A disk that follows the history holds what it should. -/
theorem Follows.bears {initial : Option Bytes} {path : Bytes} {entries recorded : List String}
    {disk : Disk} (h : Follows (fun d => d.Bears path initial) path entries recorded disk) :
    disk.Bears path (mirrored initial entries recorded) := by
  unfold mirrored
  split
  · rename_i hnone
    exact h.before (List.isEmpty_iff.1 hnone)
  · rename_i hsome
    exact h.after fun hn => hsome (List.isEmpty_iff.2 hn)

/-- Every look at the history file shows what should stand there, unless it may not be read. -/
def ShowsFile (initial : Option Bytes) : List Event → Event → Prop :=
  fun before event => ∀ view, event.view? = some view →
    view.file = mirrored initial view.history (recorded before) ∨ view.file = none

namespace Session

variable {H : Type} [Host H] [Host.Discreet H]

/-- Each step looks at the file only where it is as it should be. -/
theorem Step.showsFile {initial : Option Bytes} {path : Bytes} {a b : Stage} {s t : Session H}
    {events : List Event} (hs : Step a s b t)
    (h : s.Reflects (fun d => d.Bears path initial) path a events) :
    Throughout (fun before => ShowsFile initial (events ++ before)) (s.since t) := by
  intro before event after he view hv
  obtain ⟨rfl, rfl, hlooks⟩ := hs.looksOnce before event after he view hv
  have hcontent := (h.settled (Stage.isBehind_of_looks hlooks)).bears.content?
  rw [← h.place] at hcontent
  rw [List.append_nil]
  exact hcontent

section

variable {s : Session H} {initial : Option Bytes} (hundisturbed : s.Undisturbed)
  (hinitial : s.console.disk.Bears s.path initial) (hsaved : AllSaved s.events)

include hundisturbed hinitial hsaved

/-- As long as every attempt to write the history succeeds and nobody disturbs its file, what stands
under its path is what stood there at first, or follows the history. -/
theorem Path.reflects_initial {stage : Stage} {t : Session H} (h : Path .polling s stage t) :
    t.Reflects (fun d => d.Bears s.path initial) s.path stage (s.since t) :=
  h.reflects hundisturbed (fun hp => hundisturbed hp initial) hinitial hinitial hsaved

/-- Every look then shows the file as it should be. -/
theorem throughout_showsFile : Throughout (ShowsFile initial) s.events := by
  have hinv := s.path_run.invariant
    (J := fun stage u events => Path .polling s stage u ∧ events = s.since u ∧
      Throughout (ShowsFile initial) events) ⟨.refl, by simp [since], throughout_nil _⟩ ?_
  · exact hinv.2.2.2
  · rintro b t c u _ hs ⟨hpath, rfl, hshows⟩
    have hreflects := hpath.reflects_initial hundisturbed hinitial hsaved
    exact ⟨t.since u, hs.path.log, hpath.step hs, (hpath.since_append hs.path).symm,
      throughout_append.2 ⟨hshows, hs.showsFile hreflects⟩⟩

/-- When a command is launched the file ends with the program of its line. -/
theorem Path.holds_program {program : String} {command : Command} {t : Session H}
    (h : Path .polling s (.launching program command) t) :
    command.program? = some program ∧ ∃ earlier, t.history.entries = earlier ++ [program] ∧
      t.console.disk.Holds s.path (contentOf earlier ++ (encode program ++ [lineFeed])) := by
  have hreflects := h.reflects_initial hundisturbed hinitial hsaved
  obtain ⟨hrecorded, hnewest, hprogram⟩ := hreflects.added rfl
  obtain ⟨earlier, hentries⟩ := List.getLast?_eq_some_iff.1 hnewest
  have hholds := (hreflects.settled rfl).after hrecorded
  refine ⟨hprogram, earlier, hentries, ?_⟩
  rw [hentries] at hholds
  simpa [contentOf] using hholds

/-- Handling an interrupt leaves what stands under the path of the history as it was. -/
theorem Path.bears_interrupt {waited : Bool} {t : Session H}
    (h : Path .polling s (.handling waited) t) {content : Option Bytes}
    (hcontent : t.console.disk.Bears s.path content) :
    t.interrupt.console.disk.Bears s.path content := by
  have hinterrupt := t.path_interrupt waited
  have hbefore := ((h.reflects_initial hundisturbed hinitial hsaved).settled rfl).bears
  have hafter := (((h.trans hinterrupt).reflects_initial hundisturbed hinitial hsaved).settled
    (Stage.isBehind_resumed waited)).bears
  rw [h.since_append hinterrupt, recorded_append, t.recorded_interrupt, List.append_nil,
    t.entries_interrupt] at hafter
  rwa [hcontent.unique hbefore]

end

/-- Whatever the host brings and the output takes, from whatever file or none: as long as every
attempt to write the history succeeds and nobody else touches its file, the file is as at first until
a program is recorded, and from then on holds the entries. So it is whenever something is asked for
or launched, and whenever an interrupt is handled, which leaves it as it was. When the command of a
line is launched, the file ends with the program of that command. -/
theorem file_mirrors_history (settings : Settings) (host : H) (console : Console)
    {initial : Option Bytes} (hinitial : console.disk.Bears settings.historyPath initial)
    (hundisturbed : (start settings host console).Undisturbed)
    (hsaved : AllSaved (start settings host console).events) :
    let s := start settings host console
    let path := settings.historyPath
    (∀ {stage : Stage} {t : Session H}, Path .polling s stage t → stage.isBehind = false →
      t.console.disk.Bears path (mirrored initial t.history.entries (recorded (s.since t)))) ∧
    Throughout (ShowsFile initial) s.events ∧
    (∀ {program : String} {command : Command} {t : Session H},
      Path .polling s (.launching program command) t →
        command.program? = some program ∧ ∃ earlier, t.history.entries = earlier ++ [program] ∧
          t.console.disk.Holds path (contentOf earlier ++ (encode program ++ [lineFeed]))) ∧
    (∀ {waited : Bool} {t : Session H}, Path .polling s (.handling waited) t →
      ∀ content, t.console.disk.Bears path content →
        t.interrupt.console.disk.Bears path content) := by
  intro s path
  have hbears : s.console.disk.Bears s.path initial := by
    rw [disk_start]
    exact hinitial
  refine ⟨fun ht hb => ?_, throughout_showsFile hundisturbed hbears hsaved,
    fun ht => ht.holds_program hundisturbed hbears hsaved,
    fun ht _ => ht.bears_interrupt hundisturbed hbears hsaved⟩
  exact ((ht.reflects_initial hundisturbed hbears hsaved).settled hb).bears

/-- A file that holds blank lines around the entry `a` stays as it is while a blank line is read and
`a` is repeated, and is rewritten with `pwd`. -/
theorem file_mirrors_history_of_blankLines :
    let d := (Disk.bare.write (encode "h") (encode "\n \na\n\n\n")).2
    let s := start (Settings.withHistoryPath (encode "h"))
      (⟨[⟨.line " ", true⟩, ⟨.line "r", false⟩, ⟨.line "pwd -L", false⟩], []⟩ : Script)
      (Console.fresh d Sink.unbounded)
    Throughout (ShowsFile (some (encode "\n \na\n\n\n"))) s.events ∧
      s.run.2.console.disk.Holds (encode "h") (encode "a\npwd\n") := by
  intro d s
  have hmissing : Disk.bare.Missing (encode "h") := ⟨.system .noEntry, by decide +kernel, by decide⟩
  have hwritten : Disk.bare.write (encode "h") (encode "\n \na\n\n\n") = (.ok (), d) :=
    Prod.ext (by decide +kernel) rfl
  have hinitial : d.Bears (encode "h") (some (encode "\n \na\n\n\n")) :=
    (hmissing.bears Disk.sound_bare).write hwritten
  have hsaved : AllSaved s.events := by decide +kernel
  have hmirrored : mirrored (some (encode "\n \na\n\n\n")) s.run.2.history.entries
      (recorded s.events) = some (encode "a\npwd\n") := by decide +kernel
  obtain ⟨hbears, hshows, -, -⟩ := file_mirrors_history _ _ _ hinitial s.undisturbed_of_aloof hsaved
  refine ⟨hshows, ?_⟩
  have hend := hbears s.path_run rfl
  rwa [show s.since s.run.2 = s.events from rfl, hmirrored] at hend

end Session

end RecallShell
