import RecallShell.Proofs.Session.Effect
import RecallShell.Proofs.Session.Errand
import RecallShell.Proofs.Session.Extension

/-!
# Sessions without their interrupts

From a scripted session all that has to do with interrupts can be erased: the signals, the reads of
commands that were cut short, the answers to offers and what the repeats came to. Which items of the
script these are can only be told from the run. The session on the erased script takes no step where
the other one handles an interrupt, and the same steps as that one elsewhere. So it runs the same
errands and comes to the same end: an interrupt leaves no mark on the commands that follow it.
-/

namespace RecallShell

open Text

/-- The items of a list that are used for what is to be kept, and those that are not used at all.
The first item is for the first use, and so on. -/
def retained {α β : Type} (keeps : β → Bool) : List α → List β → List α
  | items, [] => items
  | [], _ :: _ => []
  | item :: items, use :: uses =>
    if keeps use then item :: retained keeps items uses else retained keeps items uses

section Retained

variable {α β : Type} {keeps : β → Bool}

/-- Where there are no items none are retained. -/
@[simp] theorem retained_nil (uses : List β) : retained keeps ([] : List α) uses = [] := by
  cases uses <;> rfl

/-- An item whose use is not to be kept is dropped. -/
theorem retained_drop {use : β} (h : keeps use = false) (items : List α) (uses : List β) :
    retained keeps items (use :: uses) = retained keeps items.tail uses := by
  cases items with
  | nil => simp
  | cons item items => simp [retained, h]

/-- An item whose use is to be kept stays. -/
theorem retained_keep {use : β} (h : keeps use = true) (item : α) (items : List α)
    (uses : List β) :
    retained keeps (item :: items) (use :: uses) = item :: retained keeps items uses := by
  simp [retained, h]

end Retained

/-- A read of a command that was not cut short. -/
def isHeard (answer : Prompt × ReadOutcome) : Bool :=
  answer.1 = .command && answer.2 ≠ .interrupted

/-- A launch on account of a command that was read. -/
def isOrdered (launch : Prompt × Command) : Bool := launch.1 = .command

/-- The script without its signals, without the reads that came to something else than a command or
the end of them, and without the repeats. The reads and launches that it is used for are given. -/
def Script.erased (script : Script) (answers : List (Prompt × ReadOutcome))
    (launches : List (Prompt × Command)) : Script where
  reads := (retained isHeard script.reads answers).map fun item => { item with signal := false }
  launches := (retained isOrdered script.launches launches).map fun item =>
    { item with signal := false }

/-- Where the session on the erased script stands meanwhile. -/
def Stage.erased : Stage → Stage
  | .handling _ | .offering _ | .replied .. | .repeating .. | .prompting | .heard .interrupted =>
    .polling
  | stage => stage

theorem Stage.erased_resumed (waited : Bool) : (Stage.resumed waited).erased = .polling := by
  cases waited <;> rfl

/-- What the read of a command came to counts unless it was cut short. -/
theorem Stage.erased_heard {outcome : ReadOutcome} (h : outcome ≠ .interrupted) :
    (Stage.heard outcome).erased = .heard outcome := by
  cases outcome <;> first | rfl | exact absurd rfl h

theorem Stage.eq_interrupted_of_erased {outcome : ReadOutcome}
    (h : (Stage.heard outcome).erased = .polling) : outcome = .interrupted := by
  cases outcome <;> first | rfl | cases h

namespace Session

variable {s t u s' t' u' : Session Script} {a b : Stage}
  {answers : List (Prompt × ReadOutcome)} {launches : List (Prompt × Command)}

/-- The session `t'` is what `t` is with everything erased that has to do with interrupts. Ahead of
`t` lie the reads and launches that the rest of its script is used for. -/
structure Erased (answers : List (Prompt × ReadOutcome)) (launches : List (Prompt × Command))
    (t t' : Session Script) : Prop where
  /-- Their histories are kept at the same place. -/
  path : t'.path = t.path
  /-- They have the same history. -/
  history : t'.history = t.history
  /-- They have the same disk. -/
  disk : t'.console.disk = t.console.disk
  /-- No interrupt waits for the one on the erased script. -/
  clear : t'.console.pending = false
  /-- Its script is the rest of the other one, erased. -/
  host : t'.host = t.host.erased answers launches
  /-- They have run the same errands. -/
  errands : errandsOf t'.console.log = errandsOf t.console.log

/-! ## Where the session on the erased script waits -/

/-- A step between stages at which the session on the erased script waits runs no errands. -/
theorem Step.errandsOf_aside (hs : Step a t b u) (ha : a.erased = .polling)
    (hb : b.erased = .polling) : errandsOf u.console.log = errandsOf t.console.log := by
  cases hs with
  | idle | notice | decline | cut => rfl
  | list =>
    obtain ⟨said, hc, -⟩ := t.calm_list
    have hnoted := errandsOf_record t.clearPending.console .interrupting
    exact hc.errandsOf_eq.trans (hnoted.trans (List.append_nil _))
  | answer | silence => exact (t.errandsOf_ask .offer).trans (List.append_nil _)
  | nothing =>
    obtain ⟨_, hc, -⟩ := t.calm_say Recall.nothingToRepeat
    exact hc.errandsOf_eq
  | @accept _ _ _ entry =>
    obtain ⟨_, hc, -⟩ := t.calm_say (Recall.announcement entry)
    exact hc.errandsOf_eq
  | again => exact (t.errandsOf_launch .offer _).trans (List.append_nil _)
  | @againFailed _ _ entry e =>
    obtain ⟨_, hc⟩ := (t.launch .offer (Command.ofEntry entry)).2.calm_warn_say
      (Recall.failureWarning entry e) (Recall.failureLine e)
    exact hc.errandsOf_eq.trans ((t.errandsOf_launch .offer _).trans (List.append_nil _))
  | hear =>
    rw [errandsOf_ask, Stage.eq_interrupted_of_erased hb]
    exact List.append_nil _
  | _ => cases ha

/-- After such a step the rest of the script is the same, erased. -/
theorem Step.erased_aside (hs : Step a t b u) (ha : a.erased = .polling)
    (hb : b.erased = .polling) : t.host.erased (answersOf (t.since u) ++ answers)
      (launchesOf (t.since u) ++ launches) = u.host.erased answers launches := by
  obtain ⟨hanswers, hlaunches⟩ := hs.passes.of_since
  rw [hanswers, hlaunches, Script.erased, Script.erased, hs.reads_eq, hs.launches_eq]
  cases a with
  | offering waited => simp [Stage.prompt?, Stage.launch?, retained_drop, isHeard]
  | repeating waited entry => simp [Stage.prompt?, Stage.launch?, retained_drop, isOrdered]
  | prompting =>
    have hcut : (t.ask .command).1 = .interrupted := by
      cases hs with
      | hear => exact Stage.eq_interrupted_of_erased hb
    simp [Stage.prompt?, Stage.launch?, retained_drop, isHeard, hcut]
  | launching => cases ha
  | _ => rfl

/-- Such a step leaves the history and the disk alone. -/
theorem Step.unchanged_aside (hs : Step a t b u) (ha : a.erased = .polling) :
    u.history = t.history ∧ u.console.disk = t.console.disk := by
  cases hs.effect hs.path.log with
  | remembers hstage =>
    rw [hstage] at ha
    cases ha
  | keeps hstage =>
    rw [hstage] at ha
    cases ha
  | leaves hhistory hdisk => exact ⟨hhistory, hdisk.trans (t.diskAfterHost_eq a)⟩

/-- The session on the erased script waits meanwhile. -/
theorem Erased.aside
    (h : Erased (answersOf (t.since u) ++ answers) (launchesOf (t.since u) ++ launches) t t')
    (hs : Step a t b u) (ha : a.erased = .polling) (hb : b.erased = .polling) :
    Erased answers launches u t' := by
  obtain ⟨hhistory, hdisk⟩ := hs.unchanged_aside ha
  exact {
    path := h.path.trans hs.path_eq.symm
    history := h.history.trans hhistory.symm
    disk := h.disk.trans hdisk.symm
    clear := h.clear
    host := h.host.trans (hs.erased_aside ha hb)
    errands := h.errands.trans (hs.errandsOf_aside ha hb).symm }

/-! ## Where both sessions do the same -/

namespace Erased

/-- A read of a command that is not cut short brings the same to both. -/
theorem hear (h : Erased ((.command, (t.ask .command).1) :: answers) launches t t')
    (hheard : (t.ask .command).1 ≠ .interrupted) :
    (t'.ask .command).1 = (t.ask .command).1 ∧
      Erased answers launches (t.ask .command).2 (t'.ask .command).2 := by
  have hread : (t'.ask .command).1 = (t.ask .command).1 ∧
      (t'.ask .command).2.console.pending = false ∧
      (t'.ask .command).2.host = (t.ask .command).2.host.erased answers launches := by
    have hhost := h.host
    cases hreads : t.host.reads with
    | nil =>
      have hreads' : t'.host.reads = [] := by simp [hhost, Script.erased, hreads]
      rw [ask_of_nil hreads, ask_of_nil hreads']
      refine ⟨rfl, h.clear, hhost.trans ?_⟩
      simp [Script.erased, hreads, record]
    | cons item rest =>
      rw [ask_of_cons hreads] at hheard hhost
      have hkept : isHeard (.command, item.outcome) = true := by simpa [isHeard] using hheard
      have hreads' : t'.host.reads = { item with signal := false } ::
          (retained isHeard rest answers).map fun item => { item with signal := false } := by
        simp [hhost, Script.erased, hreads, retained_keep hkept]
      rw [ask_of_cons hreads, ask_of_cons hreads']
      refine ⟨rfl, h.clear, ?_⟩
      simp [afterRead, Script.erased, hhost]
  obtain ⟨houtcome, hclear, hhost⟩ := hread
  refine ⟨houtcome, h.path, h.history, ?_, hclear, hhost, ?_⟩
  · rw [disk_ask, disk_ask, h.disk]
  · rw [errandsOf_ask, errandsOf_ask, houtcome, h.errands]

/-- A launch on account of a command that was read comes to the same for both. -/
theorem launch {command : Command}
    (h : Erased answers ((.command, command) :: launches) t t') :
    (t'.launch .command command).1 = (t.launch .command command).1 ∧
      Erased answers launches (t.launch .command command).2 (t'.launch .command command).2 := by
  have hlaunch : (t'.launch .command command).1 = (t.launch .command command).1 ∧
      (t'.launch .command command).2.console.pending = false ∧
      (t'.launch .command command).2.host =
        (t.launch .command command).2.host.erased answers launches := by
    have hhost := h.host
    cases hitems : t.host.launches with
    | nil =>
      have hitems' : t'.host.launches = [] := by simp [hhost, Script.erased, hitems]
      rw [launch_of_nil hitems, launch_of_nil hitems']
      refine ⟨rfl, h.clear, ?_⟩
      simp [afterLaunch, Script.erased, hhost]
    | cons item rest =>
      have hkept : isOrdered (.command, command) = true := by simp [isOrdered]
      have hitems' : t'.host.launches = { item with signal := false } ::
          (retained isOrdered rest launches).map fun item => { item with signal := false } := by
        simp [hhost, Script.erased, hitems, retained_keep hkept]
      rw [launch_of_cons hitems, launch_of_cons hitems']
      refine ⟨rfl, h.clear, ?_⟩
      simp [afterLaunch, Script.erased, hhost]
  obtain ⟨hresult, hclear, hhost⟩ := hlaunch
  have hview : (Event.launching .command command t'.view).errand? =
      (Event.launching .command command t.view).errand? := by
    simp [Event.errand?, view, h.history, h.path, h.disk]
  refine ⟨hresult, h.path, h.history, ?_, hclear, hhost, ?_⟩
  · rw [disk_launch, disk_launch, h.disk]
  · rw [errandsOf_launch, errandsOf_launch, hresult, hview, h.errands]

variable (h : Erased answers launches t t')

include h

theorem remember (program : String) :
    Erased answers launches (t.remember program) (t'.remember program) :=
  { h with history := by rw [Session.remember, Session.remember, h.history] }

/-- What both note is the same errand for both. -/
theorem record (event : Event) : Erased answers launches (t.record event) (t'.record event) := by
  have herrands : errandsOf (t'.console.record event).log =
      errandsOf (t.console.record event).log := by
    rw [errandsOf_record, errandsOf_record, h.errands]
  exact { h with errands := herrands }

theorem complain (text : String) : Erased answers launches (t.complain text) (t'.complain text) :=
  { h.record (.complained text) with }

theorem onDisk (disk : Disk) : Erased answers launches (t.onDisk disk) (t'.onDisk disk) :=
  { h with disk := rfl }

/-- Both histories are written to the same file, or neither. -/
theorem keep : Erased answers launches t.keep t'.keep := by
  have hsame : t'.history.save t'.path t'.console.disk = t.history.save t.path t.console.disk := by
    rw [h.history, h.path, h.disk]
  rcases hsave : t.history.save t.path t.console.disk with ⟨_ | e, disk⟩
  · rw [keep_of_error hsave, keep_of_error (hsame.trans hsave)]
    exact (((h.onDisk disk).record _).record (.warned _)).complain _
  · rw [keep_of_ok hsave, keep_of_ok (hsame.trans hsave)]
    exact (h.onDisk disk).record _

theorem finish : Erased answers launches t.finish t'.finish := by
  obtain ⟨events, hc, hquiet⟩ := t.console.calm_flush
  obtain ⟨events', hc', hquiet'⟩ := t'.console.calm_flush
  refine ⟨h.path, h.history, ?_, ?_, h.host, ?_⟩
  · exact (hc'.disk.trans h.disk).trans hc.disk.symm
  · rw [Session.finish, hc'.pending, h.clear, hquiet']
    rfl
  · exact (hc'.errandsOf_eq.trans h.errands).trans hc.errandsOf_eq.symm

end Erased

/-! ## The whole session -/

/-- Only where an interrupt is about to be handled is it noted that this begins. -/
theorem Step.interrupting_not_mem (hs : Step a s b t) (ha : ∀ waited, a ≠ .handling waited) :
    Event.interrupting ∉ s.since t := by
  obtain ⟨rest, hlog, hrest⟩ := hs.heads
  rw [since_eq hlog, List.mem_append, not_or]
  constructor
  · cases a with
    | handling waited => exact absurd rfl (ha waited)
    | _ => simp [heading]
  · exact fun hmem => absurd (hrest _ hmem) (by decide)

/-- A step between stages at which the session on the erased script does not wait may be the one
that it takes. -/
theorem Step.accompanies (hs : Step a t' b u') (ha : a.erased = a) (hb : b.erased = b)
    (h : Erased answers launches u u') :
    ∃ u', Path a.erased t' b.erased u' ∧ Event.interrupting ∉ t'.since u' ∧
      Erased answers launches u u' := by
  rw [ha, hb]
  refine ⟨u', hs.path, hs.interrupting_not_mem ?_, h⟩
  rintro waited rfl
  cases ha

/-- Each step is a path on the erased script, which may be no step at all. No interrupt is handled
there. -/
theorem Step.erased (hs : Step a t b u)
    (h : Erased (answersOf (t.since u) ++ answers) (launchesOf (t.since u) ++ launches) t t') :
    ∃ u', Path a.erased t' b.erased u' ∧ Event.interrupting ∉ t'.since u' ∧
      Erased answers launches u u' := by
  obtain ⟨hanswers, hlaunches⟩ := hs.passes.of_since
  by_cases haside : a.erased = .polling ∧ b.erased = .polling
  · refine ⟨t', ?_, by simp, h.aside hs haside.1 haside.2⟩
    rw [haside.1, haside.2]
    exact .refl
  rw [hanswers, hlaunches] at h
  cases hs with
  | hear =>
    have hheard : (t.ask .command).1 ≠ .interrupted := by
      intro hcut
      rw [hcut] at haside
      exact haside ⟨rfl, rfl⟩
    obtain ⟨houtcome, hasked⟩ := Erased.hear h hheard
    refine ⟨_, ?_, Step.hear.interrupting_not_mem nofun, hasked⟩
    rw [Stage.erased_heard hheard, ← houtcome]
    exact (Step.idle h.clear).path.step .hear
  | blank hp => exact (Step.blank hp).accompanies rfl rfl h
  | remember hp => exact (Step.remember hp).accompanies rfl rfl (h.remember _)
  | finish => exact Step.finish.accompanies rfl rfl h.finish
  | fail => exact Step.fail.accompanies rfl rfl h
  | keep => exact Step.keep.accompanies rfl rfl h.keep
  | launched hl =>
    obtain ⟨hresult, hlaunched⟩ := h.launch
    exact (Step.launched (hresult.trans hl)).accompanies rfl rfl hlaunched
  | complain hl hf =>
    obtain ⟨hresult, hlaunched⟩ := h.launch
    exact (Step.complain (hresult.trans hl) hf).accompanies rfl rfl (hlaunched.complain _)
  | fatal hl hf =>
    obtain ⟨hresult, hlaunched⟩ := h.launch
    exact (Step.fatal (hresult.trans hl) hf).accompanies rfl rfl hlaunched
  | silence | decline | nothing | again | againFailed =>
    exact absurd ⟨rfl, Stage.erased_resumed _⟩ haside
  | _ => exact absurd ⟨rfl, rfl⟩ haside

/-- Each path is one on the erased script, along which no interrupt is handled. -/
theorem Path.erased (hpath : Path .polling s b t) {answers : List (Prompt × ReadOutcome)}
    {launches : List (Prompt × Command)}
    (h : Erased (answersOf (s.since t) ++ answers) (launchesOf (s.since t) ++ launches) s s') :
    ∃ t', Path .polling s' b.erased t' ∧ Event.interrupting ∉ s'.since t' ∧
      Erased answers launches t t' := by
  induction hpath generalizing answers launches with
  | refl =>
    rw [since_self] at h
    exact ⟨s', .refl, by simp, h⟩
  | @step b t c u hbefore hs ih =>
    -- What the script is used for before the step comes first, and then what the step uses it for.
    rw [hbefore.since_append hs.path, answersOf_append, launchesOf_append, List.append_assoc,
      List.append_assoc] at h
    obtain ⟨t', hpath', hnone, ht⟩ := ih h
    obtain ⟨u', hs', hnone', hu⟩ := hs.erased ht
    refine ⟨u', hpath'.trans hs', ?_, hu⟩
    rw [hpath'.since_append hs', List.mem_append, not_or]
    exact ⟨hnone, hnone'⟩

/-- A session begins on another script, with no interrupt waiting, as it would otherwise. -/
theorem start_clear (settings : Settings) (script erased : Script) (console : Console) :
    start settings erased { console with pending := false } =
      { start settings script console with
        host := erased
        console := { (start settings script console).console with pending := false } } := by
  simp only [start]
  split <;> rfl

/-- A scripted session runs the same errands as the session on its script from which everything has
been erased that has to do with interrupts, and comes to the same end: it reads the same lines for
commands, writes the history with the same success, launches the same commands, with the same
history and the same file each time, and each comes to the same. It ends with the same result,
history, disk and diagnostics. The session on the erased script handles no interrupt. -/
theorem interrupts_transparent (settings : Settings) (script : Script) (console : Console) :
    let s := start settings script console
    let s' := start settings (script.erased (answersOf s.events) (launchesOf s.events))
      { console with pending := false }
    Event.interrupting ∉ s'.events ∧ errandsOf s'.events = errandsOf s.events ∧
      s'.run.1 = s.run.1 ∧ s'.run.2.history = s.run.2.history ∧
      s'.run.2.console.disk = s.run.2.console.disk ∧
      s'.run.2.console.diagnostics = s.run.2.console.diagnostics := by
  intro s s'
  have hs' : s' = { s with
      host := script.erased (answersOf s.events) (launchesOf s.events)
      console := { s.console with pending := false } } :=
    start_clear settings script _ console
  have hbegun : Erased (answersOf s.events ++ []) (launchesOf s.events ++ []) s s' := by
    rw [hs', List.append_nil, List.append_nil]
    exact ⟨rfl, rfl, rfl, rfl, rfl, rfl⟩
  obtain ⟨t', hpath', hnone, ht⟩ := s.path_run.erased hbegun
  have hend : s'.run = (s.run.1, t') := hpath'.over_unique
  have hevents : s'.events = s'.since t' := by rw [events, hend]
  have herrands : errandsOf s'.events = errandsOf s.events := by
    have hlogs := ht.errands
    rw [hpath'.log, ← hevents, s.path_run.log, errandsOf_append, errandsOf_append,
      hbegun.errands] at hlogs
    exact List.append_cancel_left hlogs
  have hcomplaints : complaintsOf s'.events = complaintsOf s.events := by
    rw [← complaintsOf_errandsOf, herrands, complaintsOf_errandsOf]
  have hdiagnostics : s'.run.2.console.diagnostics = s.run.2.console.diagnostics :=
    calc s'.run.2.console.diagnostics
      _ = s'.console.diagnostics ++ (complaintsOf s'.events).flatMap encode :=
        s'.path_run.diagnostics
      _ = s.console.diagnostics ++ (complaintsOf s.events).flatMap encode := by
        rw [hcomplaints, congrArg (·.console.diagnostics) hs']
      _ = s.run.2.console.diagnostics := s.path_run.diagnostics.symm
  rw [hend] at hdiagnostics ⊢
  exact ⟨hevents ▸ hnone, herrands, rfl, ht.history, ht.disk, hdiagnostics⟩

/-- Three reads answer offers and one is cut short; one launch is a repeat. -/
example :
    let s := ofScript
      [⟨.line "ls -l", true⟩, ⟨.line "r", true⟩, ⟨.line "pwd", false⟩, ⟨.interrupted, false⟩,
        ⟨.interrupted, true⟩, ⟨.line "no", false⟩, ⟨.line "id", false⟩]
      [⟨.asAsked 0, false⟩, ⟨.asAsked 1, true⟩, ⟨.asAsked 2, true⟩]
    s.host.erased (answersOf s.events) (launchesOf s.events) =
      ⟨[⟨.line "ls -l", false⟩, ⟨.line "pwd", false⟩, ⟨.line "id", false⟩],
        [⟨.asAsked 0, false⟩, ⟨.asAsked 2, false⟩]⟩ := by
  decide +kernel

end Session

end RecallShell
