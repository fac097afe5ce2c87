import RecallShell.Proofs.Session.Course

/-!
# Sessions in lockstep

Which step a session takes depends on its history, on whether an interrupt waits, and on what its
reads and its launches come to. So two sessions that agree in these, and go on to agree whatever
both of them do, take the same steps and come to the same end. Nothing is said here of what else the
two have in common.
-/

namespace RecallShell

namespace Session

variable {H : Type} [Host H]

/-- A relation between sessions that decides which step they take, and that lasts whatever both of
them do. -/
structure Lockstep (R : Session H → Session H → Prop) : Prop where
  /-- They have the same history. -/
  history : ∀ {s s'}, R s s' → s'.history = s.history
  /-- An interrupt waits for both or for neither. -/
  pending : ∀ {s s'}, R s s' → s'.console.pending = s.console.pending
  /-- A read brings the same to both. -/
  ask : ∀ {s s'}, R s s' → ∀ prompt,
    (s'.ask prompt).1 = (s.ask prompt).1 ∧ R (s.ask prompt).2 (s'.ask prompt).2
  /-- A launch comes to the same for both. -/
  launch : ∀ {s s'}, R s s' → ∀ prompt command,
    (s'.launch prompt command).1 = (s.launch prompt command).1 ∧
      R (s.launch prompt command).2 (s'.launch prompt command).2
  /-- They list their histories. -/
  list : ∀ {s s'}, R s s' → R s.list s'.list
  /-- They say the same. -/
  say : ∀ {s s'}, R s s' → ∀ line, R (s.say line) (s'.say line)
  /-- They warn of the same. -/
  warn : ∀ {s s'}, R s s' → ∀ text, R (s.warn text) (s'.warn text)
  /-- They complain of the same. -/
  complain : ∀ {s s'}, R s s' → ∀ text, R (s.complain text) (s'.complain text)
  /-- They add the same program to their histories. -/
  remember : ∀ {s s'}, R s s' → ∀ program, R (s.remember program) (s'.remember program)
  /-- They write their histories to their files, each as well as it can. -/
  keep : ∀ {s s'}, R s s' → R s.keep s'.keep
  /-- They flush their outputs for the last time. -/
  finish : ∀ {s s'}, R s s' → R s.finish s'.finish

namespace Lockstep

variable {R : Session H → Session H → Prop} (hR : Lockstep R) {s s' : Session H} (h : R s s')

include hR h

/-- Sessions in lockstep take the same step. -/
theorem step {a b : Stage} {t : Session H} (hs : Step a s b t) :
    ∃ t', Step a s' b t' ∧ R t t' := by
  cases hs with
  | idle hp => exact ⟨_, .idle ((hR.pending h).trans hp), h⟩
  | notice hp => exact ⟨_, .notice ((hR.pending h).trans hp), h⟩
  | list => exact ⟨_, .list, hR.list h⟩
  | answer ha =>
    obtain ⟨houtcome, hasked⟩ := hR.ask h .offer
    exact ⟨_, .answer (houtcome.trans ha), hasked⟩
  | silence ha =>
    obtain ⟨houtcome, hasked⟩ := hR.ask h .offer
    exact ⟨_, .silence (fun answer => houtcome ▸ ha answer), hasked⟩
  | decline ha => exact ⟨_, .decline ha, h⟩
  | nothing ha hc => exact ⟨_, .nothing ha (hR.history h ▸ hc), hR.say h _⟩
  | accept ha hc => exact ⟨_, .accept ha (hR.history h ▸ hc), hR.say h _⟩
  | again hl =>
    obtain ⟨hresult, hlaunched⟩ := hR.launch h .offer _
    exact ⟨_, .again (hresult.trans hl), hlaunched⟩
  | againFailed hl =>
    obtain ⟨hresult, hlaunched⟩ := hR.launch h .offer _
    exact ⟨_, .againFailed (hresult.trans hl), hR.say (hR.warn hlaunched _) _⟩
  | hear =>
    obtain ⟨houtcome, hasked⟩ := hR.ask h .command
    exact ⟨_, houtcome ▸ .hear, hasked⟩
  | blank hp => exact ⟨_, .blank hp, h⟩
  | remember hp => exact ⟨_, .remember hp, hR.remember h _⟩
  | cut => exact ⟨_, .cut, h⟩
  | finish => exact ⟨_, .finish, hR.finish h⟩
  | fail => exact ⟨_, .fail, h⟩
  | keep => exact ⟨_, .keep, hR.keep h⟩
  | launched hl =>
    obtain ⟨hresult, hlaunched⟩ := hR.launch h .command _
    exact ⟨_, .launched (hresult.trans hl), hlaunched⟩
  | complain hl hf =>
    obtain ⟨hresult, hlaunched⟩ := hR.launch h .command _
    exact ⟨_, .complain (hresult.trans hl) hf, hR.complain hlaunched _⟩
  | fatal hl hf =>
    obtain ⟨hresult, hlaunched⟩ := hR.launch h .command _
    exact ⟨_, .fatal (hresult.trans hl) hf, hlaunched⟩

/-- So they take the same course. -/
theorem along {a b : Stage} {t : Session H} (hpath : Path a s b t) :
    ∃ t', Path a s' b t' ∧ R t t' := by
  induction hpath with
  | refl => exact ⟨s', .refl, h⟩
  | step _ hs ih =>
    obtain ⟨u', hpath', hu⟩ := ih
    obtain ⟨t', hs', ht⟩ := hR.step hu hs
    exact ⟨t', hpath'.step hs', ht⟩

/-- They come to the same end. -/
theorem run : s'.run.1 = s.run.1 ∧ R s.run.2 s'.run.2 := by
  obtain ⟨t', hpath', ht⟩ := hR.along h s.path_run
  rw [hpath'.over_unique]
  exact ⟨rfl, ht⟩

end Lockstep

end Session

end RecallShell
