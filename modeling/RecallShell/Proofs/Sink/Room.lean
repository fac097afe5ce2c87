import RecallShell.Sink

/-!
# What a sink accepts

A sink that takes something at a time accepts all that it is offered until its room is used up, and
nothing from there on, in however many pieces it takes what it accepts, whatever a write beyond its
room meets and whatever its flushes come to. So what it has accepted in all is the front of what it
has been offered in all. A sink without a limit whose flushes succeed never fails and accepts
everything.
-/

namespace RecallShell

open Text

/-- What a write that goes beyond the room of a sink fails with. -/
def Refusal.cause : Refusal → IoError
  | .fails cause => cause
  | .takesNothing => .wroteNothing

namespace Sink

/-- The front of some bytes that fits into a room. -/
def fitting (room : Option Nat) (bs : Bytes) : Bytes := bs.take (capped bs.length room)

/-- Without a limit everything fits. -/
@[simp] theorem fitting_none (bs : Bytes) : fitting none bs = bs := List.take_length

/-- Nothing fits where there is no room. -/
@[simp] theorem fitting_zero (bs : Bytes) : fitting (some 0) bs = [] := by
  rw [fitting, capped, Nat.min_zero, List.take_zero]

@[simp] theorem fitting_nil (room : Option Nat) : fitting room [] = [] := List.take_nil

theorem length_fitting (room : Option Nat) (bs : Bytes) :
    (fitting room bs).length = capped bs.length room := by
  rw [fitting, List.length_take, Nat.min_eq_left (capped_le _ _)]

/-- What fits of bytes in a row is what fits of the first ones and then, where there is room left,
of the others. -/
theorem fitting_append (room : Option Nat) (xs ys : Bytes) :
    fitting room (xs ++ ys) = fitting room xs ++ fitting (room.map (· - xs.length)) ys := by
  cases room with
  | none => simp
  | some limit =>
    simp only [fitting, capped, Option.map_some, List.length_append, List.take_append]
    congr 1
    · rw [List.take_eq_take_iff]
      omega
    · rw [List.take_eq_take_iff]
      omega

/-- Accepting what fits uses up as much room as accepting everything would. -/
theorem map_sub_fitting (room : Option Nat) (bs : Bytes) :
    room.map (· - (fitting room bs).length) = room.map (· - bs.length) := by
  cases room with
  | none => rfl
  | some limit =>
    rw [length_fitting, capped, Option.map_some, Option.map_some, Option.some.injEq]
    omega

/-- Taking bytes in two portions comes to the same as taking them at once. -/
theorem take_take (s : Sink) (xs ys : Bytes) : (s.take xs).take ys = s.take (xs ++ ys) := by
  simp [take, Nat.sub_sub, Function.comp_def]

theorem take_nil (s : Sink) : s.take [] = s := by
  simp [take]

/-- What is taken is accepted. -/
@[simp] theorem accepted_take (s : Sink) (bs : Bytes) :
    (s.take bs).accepted = s.accepted ++ bs := by
  simp [accepted, take, List.append_assoc]

/-- As many bytes as a sink takes at once, if it takes any, fit. -/
theorem fitting_take_capped (chunk room : Option Nat) (bs : Bytes) :
    fitting room (bs.take (capped (capped bs.length chunk) room)) =
      bs.take (capped (capped bs.length chunk) room) := by
  cases room with
  | none => exact fitting_none _
  | some limit =>
    refine List.take_of_length_le ?_
    simp only [capped, List.length_take]
    omega

/-- A number that is not zero stays so under a limit that is not. -/
theorem capped_pos {n : Nat} {limit : Option Nat} (hn : 0 < n) (hlimit : limit ≠ some 0) :
    0 < capped n limit := by
  cases limit with
  | none => exact hn
  | some limit => exact Nat.lt_min.2 ⟨hn, Nat.pos_of_ne_zero fun h => hlimit (congrArg some h)⟩

/-- Where the room is used up, a write fails and leaves the sink as it is. -/
theorem writeAll_of_no_room {s : Sink} {bs : Bytes} (hchunk : s.chunk ≠ some 0) (hbs : bs ≠ [])
    (hroom : s.room = some 0) : s.writeAll bs = (.error s.refusal.cause, s) := by
  rw [writeAll, if_neg (by simpa using hbs), offer, if_neg hchunk, if_pos hroom]
  cases s.refusal <;> rfl

/-- Where there is room, some bytes at least are taken at first, and the others are written after
them. -/
theorem writeAll_of_room {s : Sink} {bs : Bytes} (hchunk : s.chunk ≠ some 0) (hbs : bs ≠ [])
    (hroom : s.room ≠ some 0) : ∃ front rest, bs = front ++ rest ∧ front ≠ [] ∧
      fitting s.room front = front ∧ s.writeAll bs = (s.take front).writeAll rest := by
  have hcount : 0 < capped (capped bs.length s.chunk) s.room :=
    capped_pos (capped_pos (List.length_pos_iff.2 hbs) hchunk) hroom
  have hfits := fitting_take_capped s.chunk s.room bs
  obtain ⟨count, hc⟩ := Nat.exists_eq_succ_of_ne_zero (Nat.ne_of_gt hcount)
  refine ⟨bs.take (count + 1), bs.drop (count + 1), (List.take_append_drop _ _).symm, ?_, ?_, ?_⟩
  · simpa using hbs
  · rwa [hc] at hfits
  · rw [writeAll, if_neg (by simpa using hbs), offer, if_neg hchunk, if_neg hroom, hc]

/-- A write takes what fits, and fails if that is not everything. -/
theorem writeAll_eq {s : Sink} (hchunk : s.chunk ≠ some 0) (bs : Bytes) :
    s.writeAll bs = (if fitting s.room bs = bs then .ok () else .error s.refusal.cause,
      s.take (fitting s.room bs)) := by
  -- By induction on what is left to write.
  induction hn : bs.length using Nat.strongRecOn generalizing s bs with
  | ind n ih =>
    subst hn
    by_cases hbs : bs = []
    · rw [hbs, writeAll, fitting_nil, take_nil]
      rfl
    by_cases hroom : s.room = some 0
    · rw [writeAll_of_no_room hchunk hbs hroom, hroom, fitting_zero, if_neg (Ne.symm hbs), take_nil]
    · obtain ⟨front, rest, rfl, hfront, hfits, hwrite⟩ := writeAll_of_room hchunk hbs hroom
      have hshorter : rest.length < (front ++ rest).length := by
        have := List.length_pos_iff.2 hfront
        rw [List.length_append]
        omega
      -- The rest of the bytes finds the room that the first ones have left.
      have hsplit : fitting s.room (front ++ rest) =
          front ++ fitting (s.take front).room rest := by
        rw [fitting_append, hfits]
        rfl
      have hrest : fitting (s.take front).room rest = rest ↔
          fitting s.room (front ++ rest) = front ++ rest := by
        rw [hsplit, List.append_cancel_left_eq]
      calc s.writeAll (front ++ rest)
          = (s.take front).writeAll rest := hwrite
        _ = (if fitting (s.take front).room rest = rest then .ok () else .error s.refusal.cause,
              (s.take front).take (fitting (s.take front).room rest)) :=
            ih _ hshorter (s := s.take front) hchunk rest rfl
        _ = _ := by
          rw [take_take, ← hsplit]
          simp only [hrest]

/-- Bytes of which not all fit are accepted as far as they do, and are not flushed. -/
theorem emit_of_not_fitting {s : Sink} {bs : Bytes} (hchunk : s.chunk ≠ some 0)
    (h : fitting s.room bs ≠ bs) :
    s.emit bs = (forgive s.refusal.cause, [], s.take (fitting s.room bs)) := by
  rw [emit, writeAll_eq hchunk, if_neg h]

/-- Bytes that all fit are accepted and flushed, which may succeed. -/
theorem emit_of_flush {s t : Sink} {bs sent : Bytes} (hchunk : s.chunk ≠ some 0)
    (h : fitting s.room bs = bs) (hflush : (s.take bs).flush = (.ok sent, t)) :
    s.emit bs = (.ok (), sent, t) := by
  have hwrite : s.writeAll bs = (.ok (), s.take bs) := by rw [writeAll_eq hchunk, if_pos h, h]
  simp only [emit, hwrite, hflush]

/-- It may fail as well. -/
theorem emit_of_failed_flush {s t : Sink} {bs : Bytes} {cause : IoError}
    (hchunk : s.chunk ≠ some 0) (h : fitting s.room bs = bs)
    (hflush : (s.take bs).flush = (.error cause, t)) :
    s.emit bs = (forgive cause, [], t) := by
  have hwrite : s.writeAll bs = (.ok (), s.take bs) := by rw [writeAll_eq hchunk, if_pos h, h]
  simp only [emit, hwrite, hflush]

/-- A write that is flushed leaves what the write leaves, or what the flush makes of that. -/
theorem emit_cases {s : Sink} (hchunk : s.chunk ≠ some 0) (bs : Bytes) :
    (s.emit bs).2.2 = s.take (fitting s.room bs) ∨
      (s.emit bs).2.2 = (s.take (fitting s.room bs)).flush.2 := by
  by_cases h : fitting s.room bs = bs
  · refine Or.inr ?_
    rw [h]
    rcases hflush : (s.take bs).flush with ⟨_ | _, t⟩
    · rw [emit_of_failed_flush hchunk h hflush]
    · rw [emit_of_flush hchunk h hflush]
  · exact Or.inl (by rw [emit_of_not_fitting hchunk h])

/-- A sink that never fails, however few bytes it takes at a time. -/
structure Lossless (s : Sink) : Prop where
  /-- There is no limit to what it takes in all. -/
  room : s.room = none
  /-- It takes something at a time. -/
  chunk : s.chunk ≠ some 0
  /-- The coming flushes succeed. -/
  plan : ∀ fault ∈ s.flushPlan, fault = none
  /-- So do those after them. -/
  fault : s.flushFault = none

theorem lossless_unbounded : unbounded.Lossless where
  room := rfl
  chunk := nofun
  plan := nofun
  fault := rfl

theorem Lossless.take {s : Sink} (h : s.Lossless) (bs : Bytes) : (s.take bs).Lossless where
  room := by rw [Sink.take, h.room]; rfl
  chunk := h.chunk
  plan := h.plan
  fault := h.fault

/-- A flush changes neither the room nor how much is taken at a time nor what flushes come to in the
end, and uses up one that was planned. -/
theorem flush_snd (s : Sink) : s.flush.2.room = s.room ∧ s.flush.2.chunk = s.chunk ∧
    s.flush.2.flushFault = s.flushFault ∧ s.flush.2.flushPlan = s.flushPlan.tail := by
  unfold flush
  split <;> exact ⟨rfl, rfl, rfl, rfl⟩

theorem Lossless.flush {s : Sink} (h : s.Lossless) : s.flush.2.Lossless := by
  obtain ⟨hroom, hchunk, hfault, hplan⟩ := s.flush_snd
  refine ⟨hroom.trans h.room, fun hc => h.chunk (hchunk.symm.trans hc), ?_, hfault.trans h.fault⟩
  rw [hplan]
  exact fun fault hf => h.plan fault (List.mem_of_mem_tail hf)

/-- From `s` to `t` some bytes have been offered. -/
structure Offered (s : Sink) (bs : Bytes) (t : Sink) : Prop where
  /-- Those that there was room for have been accepted, behind what had been accepted before. -/
  accepted : t.accepted = s.accepted ++ fitting s.room bs
  /-- As much less room is left. -/
  room : t.room = s.room.map (· - bs.length)
  /-- Something is taken at a time. -/
  chunk : t.chunk ≠ some 0
  /-- What never failed does not begin to. -/
  lossless : s.Lossless → t.Lossless

namespace Offered

variable {s t : Sink} {bs : Bytes}

/-- Nothing has been offered at first. -/
theorem refl (hchunk : s.chunk ≠ some 0) : s.Offered [] s where
  accepted := by simp
  room := by cases h : s.room <;> simp
  chunk := hchunk
  lossless := id

/-- What is taken is offered next. -/
theorem take (h : s.Offered bs t) (more : Bytes) :
    s.Offered (bs ++ more) (t.take (fitting t.room more)) where
  accepted := by
    rw [accepted_take, h.accepted, fitting_append, h.room, List.append_assoc]
  room := by
    rw [Sink.take, map_sub_fitting, h.room]
    cases s.room <;> simp [Nat.sub_sub]
  chunk := h.chunk
  lossless hs := (h.lossless hs).take _

/-- A flush offers nothing. -/
theorem flush (h : s.Offered bs t) : s.Offered bs t.flush.2 := by
  obtain ⟨hroom, hchunk, -, -⟩ := t.flush_snd
  exact ⟨by rw [accepted_flush, h.accepted], hroom.trans h.room,
    fun hc => h.chunk (hchunk.symm.trans hc), fun hs => (h.lossless hs).flush⟩

/-- What is written and flushed is offered next. -/
theorem emit (h : s.Offered bs t) (more : Bytes) : s.Offered (bs ++ more) (t.emit more).2.2 := by
  rcases emit_cases h.chunk more with he | he
  · rw [he]
    exact h.take more
  · rw [he]
    exact (h.take more).flush

/-- A sink that never fails accepts whatever it is offered. -/
theorem accepted_of_lossless (h : s.Offered bs t) (hs : s.Lossless) :
    t.accepted = s.accepted ++ bs := by
  rw [h.accepted, hs.room, fitting_none]

end Offered

end Sink

end RecallShell
