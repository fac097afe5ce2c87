import RecallShell.Disk.Standard
import RecallShell.Proofs.Host.Conduct
import RecallShell.Proofs.Sink.Room

/-!
# Pieces of output in a row

Lines and prompts are put out one after the other on a sink with limited room, whose flushes may
fail. The sink accepts the front of all their bytes that fits into its room. Each piece is flushed
exactly if all of it has been accepted; what stops it, a write beyond the room or its flush, is what
putting it out comes to, unless the reader is gone. How many bytes the sink takes at a time, always
or at one offer, shows in nothing of this.
-/

namespace RecallShell

open Text

/-- A piece of output. -/
inductive Output where
  /-- A line, which ends with a line feed. -/
  | line (text : String)
  /-- A prompt, which does not. -/
  | prompt (text : String)
  deriving DecidableEq, Repr

/-- The bytes of a piece of output. -/
def Output.bytes : Output → Bytes
  | .line text => encode text ++ [lineFeed]
  | .prompt text => encode text

namespace Sink

/-- What a flush fails with, if it does, after so many others from here on. -/
def fault? (s : Sink) (others : Nat) : Option IoError := s.flushPlan[others]?.getD s.flushFault

/-- The sink, taking so many bytes at a time. -/
def inChunks (s : Sink) (chunk : Option Nat) : Sink := { s with chunk }

/-- What stops a piece of output on a sink, if something does: a write beyond the room, where not
all its bytes are accepted, and else its flush, where that fails. The sink is `first` before any
piece of output, `s` before this one and `t` after it. -/
inductive Stops (first s t : Sink) (bs : Bytes) : IoError → Prop
  | writing (h : t.accepted ≠ s.accepted ++ bs) : Stops first s t bs first.refusal.cause
  | flushing {cause : IoError} (h : t.accepted = s.accepted ++ bs)
      (hfault : first.fault? (s.flushes - first.flushes) = some cause) : Stops first s t bs cause

/-- How a piece of output fares on a sink that is `first` before any piece of output, `s` before
this one and `t` after it. -/
structure Fares (first s t : Sink) (bs : Bytes) (result : Except IoError Unit) : Prop where
  /-- It goes well exactly if all its bytes are accepted and its flush succeeds, or if what stops it
  is that the reader is gone. -/
  ok_iff : result = .ok () ↔
    (t.accepted = s.accepted ++ bs ∧ first.fault? (s.flushes - first.flushes) = none) ∨
      ∃ cause, Stops first s t bs cause ∧ cause.kind = .brokenPipe
  /-- Anything else that stops it is what it fails with. -/
  error : ∀ cause, Stops first s t bs cause → cause.kind ≠ .brokenPipe → result = .error cause
  /-- It is flushed if all its bytes have been accepted. -/
  flushed : t.accepted = s.accepted ++ bs → t.flushes = s.flushes + 1
  /-- It is not if they have not. -/
  unflushed : t.accepted ≠ s.accepted ++ bs → t.flushes = s.flushes

/-- Bytes are offered again and again until all are taken. How many the sink takes at a time may
differ from one offer to the next, as long as it takes some where it has room. -/
inductive Writes : Sink → Bytes → Except IoError Unit → Sink → Prop
  | done {s : Sink} : Writes s [] (.ok ()) s
  | failed {s t : Sink} {bs : Bytes} {portion : Option Nat} {cause : IoError} (hbs : bs ≠ [])
      (hportion : portion ≠ some 0) (h : (s.inChunks portion).offer bs = (.error cause, t)) :
      Writes s bs (.error cause) t
  | stuck {s t : Sink} {bs : Bytes} {portion : Option Nat} (hbs : bs ≠ [])
      (hportion : portion ≠ some 0) (h : (s.inChunks portion).offer bs = (.ok 0, t)) :
      Writes s bs (.error .wroteNothing) t
  | taken {s t u : Sink} {bs : Bytes} {portion : Option Nat} {count : Nat}
      {written : Except IoError Unit} (hbs : bs ≠ []) (hportion : portion ≠ some 0)
      (h : (s.inChunks portion).offer bs = (.ok (count + 1), t))
      (hrest : Writes t (bs.drop (count + 1)) written u) : Writes s bs written u

end Sink

namespace Console

/-- Puts out a piece of output. -/
def put (c : Console) : Output → Except IoError Unit × Console
  | .line text => c.emitLine text
  | .prompt text => c.emitPrompt text

/-- Puts out one piece of output after the other: what each comes to, and what they leave. -/
def putAll (c : Console) : List Output → List (Except IoError Unit) × Console
  | [] => ([], c)
  | output :: outputs =>
    let first := c.put output
    let others := first.2.putAll outputs
    (first.1 :: others.1, others.2)

/-- The surroundings with an output that takes so many bytes at a time. -/
def inChunks (c : Console) (chunk : Option Nat) : Console := { c with out := c.out.inChunks chunk }

end Console

namespace Sink

variable {first s t : Sink} {bs : Bytes}

/-- A failure is forgiven exactly if the reader is gone. -/
theorem forgive_eq_ok_iff {cause : IoError} :
    forgive cause = .ok () ↔ cause.kind = .brokenPipe := by
  unfold forgive IoError.isBrokenPipe
  by_cases h : cause.kind = .brokenPipe <;> simp [h]

/-- Any other failure counts. -/
theorem forgive_of_ne {cause : IoError} (h : cause.kind ≠ .brokenPipe) :
    forgive cause = .error cause := by
  simp [forgive, IoError.isBrokenPipe, h]

/-- A flush for which no failure is planned sends what has been taken. -/
theorem flush_of_fault?_eq_none (h : s.fault? 0 = none) :
    s.flush = (.ok s.pending, s.flush.2) := by
  rw [fault?, ← List.head?_eq_getElem?, ← List.headD_eq_head?_getD] at h
  simp only [flush, h]

/-- A flush fails with what is planned for it. -/
theorem flush_of_fault?_eq_some {cause : IoError} (h : s.fault? 0 = some cause) :
    s.flush = (.error cause, s.flush.2) := by
  rw [fault?, ← List.head?_eq_getElem?, ← List.headD_eq_head?_getD] at h
  simp only [flush, h]

/-- A flush is counted, whatever it comes to. -/
theorem flushes_flush (s : Sink) : s.flush.2.flushes = s.flushes + 1 := by
  unfold flush
  split <;> rfl

/-- Behind a flush the others come one earlier. -/
theorem fault?_flush (s : Sink) (others : Nat) :
    s.flush.2.fault? others = s.fault? (others + 1) := by
  obtain ⟨-, -, hfault, hplan⟩ := s.flush_snd
  rw [fault?, fault?, hfault, hplan, List.getElem?_tail]

/-- What is put out is accepted as far as it fits. -/
theorem accepted_emit (hchunk : s.chunk ≠ some 0) (bs : Bytes) :
    (s.emit bs).2.2.accepted = s.accepted ++ fitting s.room bs := by
  rcases emit_cases hchunk bs with h | h
  · rw [h, accepted_take]
  · rw [h, accepted_flush, accepted_take]

/-- All of what is put out is accepted exactly if it fits. -/
theorem accepted_emit_eq_iff (hchunk : s.chunk ≠ some 0) (bs : Bytes) :
    (s.emit bs).2.2.accepted = s.accepted ++ bs ↔ fitting s.room bs = bs := by
  rw [accepted_emit hchunk, List.append_cancel_left_eq]

/-- What stops a piece of output is one thing. -/
theorem Stops.unique {cause other : IoError} (h : Stops first s t bs cause)
    (h' : Stops first s t bs other) : cause = other := by
  cases h with
  | writing h =>
    cases h' with
    | writing => rfl
    | flushing h' => exact absurd h' h
  | flushing h hfault =>
    cases h' with
    | writing h' => exact absurd h h'
    | flushing _ hfault' => exact Option.some.inj (hfault.symm.trans hfault')

/-- A piece of output fares so if it comes to what stops it, unless the reader is gone. -/
theorem Stops.fares {cause : IoError} (h : Stops first s t bs cause)
    (hflushed : t.accepted = s.accepted ++ bs → t.flushes = s.flushes + 1)
    (hunflushed : t.accepted ≠ s.accepted ++ bs → t.flushes = s.flushes) :
    Fares first s t bs (forgive cause) where
  ok_iff := by
    rw [forgive_eq_ok_iff]
    constructor
    · exact fun hgone => Or.inr ⟨cause, h, hgone⟩
    · rintro (⟨hall, hnone⟩ | ⟨other, hother, hgone⟩)
      · cases h with
        | writing hnot => exact absurd hall hnot
        | flushing _ hfault => cases hnone.symm.trans hfault
      · rwa [h.unique hother]
  error other hother hgone := by
    rw [h.unique hother]
    exact forgive_of_ne hgone
  flushed := hflushed
  unflushed := hunflushed

/-- A piece of output that nothing stops goes well. -/
theorem fares_of_sent (hall : t.accepted = s.accepted ++ bs)
    (hnone : first.fault? (s.flushes - first.flushes) = none)
    (hflushes : t.flushes = s.flushes + 1) : Fares first s t bs (.ok ()) where
  ok_iff := ⟨fun _ => Or.inl ⟨hall, hnone⟩, fun _ => rfl⟩
  error cause h := by
    cases h with
    | writing hnot => exact absurd hall hnot
    | flushing _ hfault => cases hnone.symm.trans hfault
  flushed _ := hflushes
  unflushed hnot := absurd hall hnot

/-- From `first` to `s` nothing changes but the room, the bytes taken and the flushes asked for. -/
structure Becomes (first s : Sink) : Prop where
  /-- Something is taken at a time. -/
  chunk : s.chunk ≠ some 0
  /-- A write beyond the room meets the same. -/
  refusal : s.refusal = first.refusal
  /-- The flushes to come are those that were to come, without those asked for. -/
  faults : ∀ others, s.fault? others = first.fault? (s.flushes - first.flushes + others)
  /-- Flushes are counted. -/
  flushes : first.flushes ≤ s.flushes

namespace Becomes

theorem refl (hchunk : s.chunk ≠ some 0) : s.Becomes s where
  chunk := hchunk
  refusal := rfl
  faults others := by rw [Nat.sub_self, Nat.zero_add]
  flushes := Nat.le_refl _

theorem take (h : first.Becomes s) (bs : Bytes) : first.Becomes (s.take bs) :=
  ⟨h.chunk, h.refusal, h.faults, h.flushes⟩

theorem flush (h : first.Becomes s) : first.Becomes s.flush.2 where
  chunk := by
    rw [s.flush_snd.2.1]
    exact h.chunk
  refusal := by
    rw [← h.refusal]
    unfold Sink.flush
    split <;> rfl
  faults others := by
    have hle := h.flushes
    rw [fault?_flush, h.faults, flushes_flush]
    congr 1
    omega
  flushes := by
    rw [flushes_flush]
    exact Nat.le_succ_of_le h.flushes

theorem emit (h : first.Becomes s) (bs : Bytes) : first.Becomes (s.emit bs).2.2 := by
  rcases emit_cases h.chunk bs with he | he
  · rw [he]
    exact h.take _
  · rw [he]
    exact (h.take _).flush

/-- What is written and flushed next fares by the room and the flushes of the sink at first. -/
theorem fares (h : first.Becomes s) (bs : Bytes) :
    Fares first s (s.emit bs).2.2 bs (s.emit bs).1 := by
  have hall := accepted_emit_eq_iff h.chunk bs
  by_cases hfits : fitting s.room bs = bs
  · have hfault : s.fault? 0 = first.fault? (s.flushes - first.flushes) := h.faults 0
    have hflushes : (s.take bs).flush.2.flushes = s.flushes + 1 := flushes_flush _
    cases hnext : s.fault? 0 with
    | none =>
      have hflush := flush_of_fault?_eq_none (s := s.take bs) hnext
      rw [emit_of_flush h.chunk hfits hflush] at hall ⊢
      exact fares_of_sent (hall.2 hfits) (hfault.symm.trans hnext) hflushes
    | some cause =>
      have hflush := flush_of_fault?_eq_some (s := s.take bs) hnext
      rw [emit_of_failed_flush h.chunk hfits hflush] at hall ⊢
      exact (Stops.flushing (hall.2 hfits) (hfault.symm.trans hnext)).fares (fun _ => hflushes)
        (absurd (hall.2 hfits))
  · have hemit := emit_of_not_fitting h.chunk hfits
    have hnot := mt hall.1 hfits
    rw [hemit] at hnot ⊢
    rw [h.refusal]
    exact (Stops.writing hnot).fares (fun heq => absurd heq hnot) (fun _ => rfl)

end Becomes

/-- How many bytes are taken at a time makes no difference to a flush. -/
theorem flush_inChunks (s : Sink) (chunk : Option Nat) :
    (s.inChunks chunk).flush = (s.flush.1, s.flush.2.inChunks chunk) := by
  simp only [flush, inChunks]
  cases s.flushPlan.headD s.flushFault <;> rfl

/-- Nor does it to a write. -/
theorem writeAll_inChunks (hchunk : s.chunk ≠ some 0) {chunk : Option Nat}
    (hother : chunk ≠ some 0) (bs : Bytes) :
    (s.inChunks chunk).writeAll bs = ((s.writeAll bs).1, (s.writeAll bs).2.inChunks chunk) := by
  rw [writeAll_eq hchunk, writeAll_eq (s := s.inChunks chunk) hother]
  rfl

/-- Nor to a write that is flushed. -/
theorem emit_inChunks (hchunk : s.chunk ≠ some 0) {chunk : Option Nat} (hother : chunk ≠ some 0)
    (bs : Bytes) : (s.inChunks chunk).emit bs =
      ((s.emit bs).1, (s.emit bs).2.1, (s.emit bs).2.2.inChunks chunk) := by
  simp only [emit, writeAll_inChunks hchunk hother]
  rcases s.writeAll bs with ⟨_ | _, t⟩
  · rfl
  · simp only [flush_inChunks]
    rcases t.flush with ⟨_ | _, u⟩ <;> rfl

/-- An offer leaves it as it is how many bytes are taken at a time. -/
theorem chunk_offer (s : Sink) (bs : Bytes) : (s.offer bs).2.chunk = s.chunk := by
  unfold offer
  split
  · rfl
  · split
    · split <;> rfl
    · rfl

/-- However the sink portions what it takes, a write comes to the same and leaves the same. -/
theorem Writes.writeAll_eq {written : Except IoError Unit} (h : s.Writes bs written t)
    {chunk : Option Nat} (hchunk : chunk ≠ some 0) :
    (s.inChunks chunk).writeAll bs = (written, t.inChunks chunk) := by
  induction h with
  | done =>
    rw [writeAll]
    rfl
  | @failed s t bs portion cause hbs hportion hoffer =>
    have hwrite : (s.inChunks portion).writeAll bs = (.error cause, t) := by
      rw [writeAll, if_neg (by simpa using hbs), hoffer]
    have hsame := writeAll_inChunks (s := s.inChunks portion) hportion hchunk bs
    rwa [hwrite] at hsame
  | @stuck s t bs portion hbs hportion hoffer =>
    have hwrite : (s.inChunks portion).writeAll bs = (.error .wroteNothing, t) := by
      rw [writeAll, if_neg (by simpa using hbs), hoffer]
    have hsame := writeAll_inChunks (s := s.inChunks portion) hportion hchunk bs
    rwa [hwrite] at hsame
  | @taken s t u bs portion count written hbs hportion hoffer _ ih =>
    have hwrite : (s.inChunks portion).writeAll bs = t.writeAll (bs.drop (count + 1)) := by
      rw [writeAll, if_neg (by simpa using hbs), hoffer]
    have ht : t.chunk ≠ some 0 := by
      have hkept := chunk_offer (s.inChunks portion) bs
      rw [hoffer] at hkept
      exact fun hzero => hportion (hkept.symm.trans hzero)
    have hsame := writeAll_inChunks (s := s.inChunks portion) hportion hchunk bs
    rw [hwrite, ← writeAll_inChunks ht hchunk, ih] at hsame
    exact hsame

end Sink

namespace Console

variable {c : Console}

/-- What is emitted changes the output, and is logged where it has been sent. -/
theorem emit_eq (c : Console) (bs : Bytes) : c.emit bs =
    ((c.out.emit bs).1,
      ({ c with out := (c.out.emit bs).2.2 }).recordSent (c.out.emit bs).2.1) := rfl

/-- A piece of output is written and flushed. -/
theorem put_eq (c : Console) (output : Output) : c.put output = c.emit output.bytes := by
  cases output <;> rfl

theorem out_put (c : Console) (output : Output) :
    (c.put output).2.out = (c.out.emit output.bytes).2.2 := by
  rw [put_eq, out_emit]

/-- What is put out behind other pieces finds what they leave. -/
theorem putAll_append (c : Console) (before after : List Output) :
    c.putAll (before ++ after) =
      ((c.putAll before).1 ++ ((c.putAll before).2.putAll after).1,
        ((c.putAll before).2.putAll after).2) := by
  induction before generalizing c with
  | nil => rfl
  | cons output before ih => simp only [List.cons_append, putAll, ih]

/-- Each piece of output comes to something. -/
theorem length_putAll (c : Console) (outputs : List Output) :
    (c.putAll outputs).1.length = outputs.length := by
  induction outputs generalizing c with
  | nil => rfl
  | cons output outputs ih => exact congrArg (· + 1) (ih _)

/-- Pieces of output offer all their bytes, one piece after the other. -/
theorem offered_putAll {s : Sink} {given : Bytes} (h : s.Offered given c.out)
    (outputs : List Output) :
    s.Offered (given ++ outputs.flatMap Output.bytes) (c.putAll outputs).2.out := by
  induction outputs generalizing c given with
  | nil => simpa [putAll] using h
  | cons output outputs ih =>
    have hput : s.Offered (given ++ output.bytes) (c.put output).2.out := by
      rw [out_put]
      exact h.emit output.bytes
    rw [List.flatMap_cons, ← List.append_assoc]
    exact ih hput

/-- Pieces of output change nothing else of a sink. -/
theorem becomes_putAll {first : Sink} (h : first.Becomes c.out) (outputs : List Output) :
    first.Becomes (c.putAll outputs).2.out := by
  induction outputs generalizing c with
  | nil => exact h
  | cons output outputs ih =>
    refine ih ?_
    rw [out_put]
    exact h.emit output.bytes

/-- How many bytes are taken at a time makes no difference to a piece of output. -/
theorem put_inChunks (hchunk : c.out.chunk ≠ some 0) {chunk : Option Nat} (hother : chunk ≠ some 0)
    (output : Output) :
    (c.inChunks chunk).put output = ((c.put output).1, (c.put output).2.inChunks chunk) := by
  have hout : (c.inChunks chunk).out.emit output.bytes = _ :=
    Sink.emit_inChunks hchunk hother output.bytes
  rw [put_eq, put_eq, emit_eq, hout, emit_eq]
  simp only [recordSent]
  split <;> rfl

/-- Nor does it to any number of them. -/
theorem putAll_inChunks (hchunk : c.out.chunk ≠ some 0) {chunk : Option Nat}
    (hother : chunk ≠ some 0) (outputs : List Output) :
    (c.inChunks chunk).putAll outputs =
      ((c.putAll outputs).1, (c.putAll outputs).2.inChunks chunk) := by
  induction outputs generalizing c with
  | nil => rfl
  | cons output outputs ih =>
    have hnext : (c.put output).2.out.chunk ≠ some 0 := by
      rw [out_put]
      exact ((Sink.Becomes.refl hchunk).emit output.bytes).chunk
    simp only [putAll, put_inChunks hchunk hother, ih hnext]

/-- When pieces of output are put out one after the other on a sink that takes something at a time,
it accepts the front of all their bytes for which it has room. Each piece goes well or fails by
whether all its bytes are accepted and by what its flush comes to. Nothing of this depends on how
many bytes the sink takes at a time, also where it takes more at one offer than at another. -/
theorem putAll_fares (c : Console) (hchunk : c.out.chunk ≠ some 0) (outputs : List Output) :
    let given := outputs.flatMap Output.bytes
    (c.putAll outputs).2.out.accepted =
        c.out.accepted ++ given.take (Sink.capped given.length c.out.room) ∧
      (c.putAll outputs).1.length = outputs.length ∧
      (∀ before output after, outputs = before ++ output :: after →
        let s := (c.putAll before).2.out
        (∃ result, (c.putAll outputs).1[before.length]? = some result ∧
          Sink.Fares c.out s (c.putAll (before ++ [output])).2.out output.bytes result) ∧
        ∀ written t, s.Writes output.bytes written t →
          s.writeAll output.bytes = (written, t.inChunks s.chunk)) ∧
      ∀ chunk, chunk ≠ some 0 → (c.inChunks chunk).putAll outputs =
        ((c.putAll outputs).1, (c.putAll outputs).2.inChunks chunk) := by
  intro given
  refine ⟨?_, length_putAll c outputs, ?_,
    fun chunk hother => putAll_inChunks hchunk hother outputs⟩
  · exact (offered_putAll (.refl hchunk) outputs).accepted
  · rintro before output after rfl
    have hready := becomes_putAll (.refl hchunk) before
    have hafter : (c.putAll (before ++ [output])).2.out =
        ((c.putAll before).2.out.emit output.bytes).2.2 := by
      rw [putAll_append, ← out_put]
      rfl
    refine ⟨⟨((c.putAll before).2.put output).1, ?_, ?_⟩,
      fun written t hwrites => hwrites.writeAll_eq hready.chunk⟩
    · rw [putAll_append, ← length_putAll c before, List.getElem?_append_right (Nat.le_refl _),
        Nat.sub_self]
      rfl
    · rw [hafter, put_eq]
      exact hready.fares output.bytes

/-- The sink takes two bytes at a time and eight in all. The second flush finds the reader gone, and
those after it fail for another reason, also where there is nothing to flush. One byte of the last
line goes beyond the room. -/
theorem putAll_fares_of_cut :
    let c := fresh Disk.bare { Sink.unbounded with
      room := some 8, refusal := .fails (.system .noSpace), chunk := some 2
      flushPlan := [none, some (.bare .brokenPipe)], flushFault := some (.bare .timedOut) }
    let outputs := [.line "ab", .prompt "c>", .prompt "", .line "xyz"]
    c.out.chunk ≠ some 0 ∧ (c.putAll outputs).2.out.accepted = encode "ab\nc>xyz" ∧
      (c.putAll outputs).1[1]? = some (.ok ()) ∧
      (c.putAll outputs).1[2]? = some (.error (.bare .timedOut)) ∧
      (c.putAll outputs).1[3]? = some (.error (.system .noSpace)) ∧
      (c.putAll outputs).2.out.flushes = 3 ∧
      (∃ t, c.out.Writes (Output.line "ab").bytes (.ok ()) t ∧
        c.out.writeAll (Output.line "ab").bytes = (.ok (), t.inChunks (some 2))) ∧
      ((c.inChunks none).putAll outputs).1 = (c.putAll outputs).1 := by
  intro c outputs
  have hchunk : c.out.chunk ≠ some 0 := by decide
  obtain ⟨haccepted, -, hfares, hchunks⟩ := putAll_fares c hchunk outputs
  obtain ⟨-, hportions⟩ := hfares [] (.line "ab") _ rfl
  obtain ⟨⟨second, hsecond, hgone⟩, -⟩ := hfares [.line "ab"] (.prompt "c>") _ rfl
  obtain ⟨⟨third, hthird, hunsent⟩, -⟩ := hfares [.line "ab", .prompt "c>"] (.prompt "") _ rfl
  obtain ⟨⟨fourth, hfourth, hcut⟩, -⟩ :=
    hfares [.line "ab", .prompt "c>", .prompt ""] (.line "xyz") [] rfl
  have hok : second = .ok () := hgone.ok_iff.2
    (Or.inr ⟨.bare .brokenPipe, .flushing (by decide +kernel) (by decide +kernel), rfl⟩)
  have hlate : third = .error (.bare .timedOut) :=
    hunsent.error _ (.flushing (by decide +kernel) (by decide +kernel)) (by decide)
  have hfull : fourth = .error (.system .noSpace) :=
    hcut.error _ (.writing (by decide +kernel)) (by decide)
  -- One byte is taken at the first offer and two at the second.
  have hwrites : c.out.Writes (Output.line "ab").bytes (.ok ()) _ :=
    @Sink.Writes.taken _ _ _ _ (some 1) 0 _ (by decide) (by decide) rfl
      (@Sink.Writes.taken _ _ _ _ none 1 _ (by decide) (by decide) rfl .done)
  refine ⟨hchunk, haccepted.trans (by decide +kernel), hok ▸ hsecond, hlate ▸ hthird,
    hfull ▸ hfourth, by decide +kernel, ⟨_, hwrites, hportions _ _ hwrites⟩, ?_⟩
  rw [hchunks none (by decide)]

end Console

end RecallShell
