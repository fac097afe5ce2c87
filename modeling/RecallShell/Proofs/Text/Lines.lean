import RecallShell.Proofs.Text.Encoding
import RecallShell.Text.Lines
import RecallShell.Text.Split

/-!
# Cutting into lines

A list is cut behind each separator, and bytes behind each line feed. The first line ends in its
only line feed; what is proved of bytes without line feeds, and of such a line in front of others,
is proved of all bytes.
-/

namespace RecallShell.Text

section Cutting

variable {α : Type} {separator : α → Bool}

/-- The parts of a list that is cut behind each separator; the last one may lack it. -/
def cutAfter (separator : α → Bool) : List α → List (List α)
  | [] => []
  | x :: xs =>
    if separator x then [x] :: cutAfter separator xs
    else
      match cutAfter separator xs with
      | [] => [[x]]
      | part :: parts => (x :: part) :: parts

/-- The part in front of a separator comes first, with that separator. -/
theorem cutAfter_append_cons {xs ys : List α} {s : α} (hxs : ∀ x ∈ xs, separator x = false)
    (hs : separator s = true) :
    cutAfter separator (xs ++ s :: ys) = (xs ++ [s]) :: cutAfter separator ys := by
  induction xs with
  | nil => simp [cutAfter, hs]
  | cons x xs ih =>
    obtain ⟨hx, hxs⟩ := List.forall_mem_cons.1 hxs
    simp [cutAfter, hx, ih hxs]

/-- Without a separator there is one part, or none. -/
theorem cutAfter_of_forall {xs : List α} (h : ∀ x ∈ xs, separator x = false) :
    cutAfter separator xs = if xs = [] then [] else [xs] := by
  induction xs with
  | nil => rfl
  | cons x xs ih =>
    obtain ⟨hx, hxs⟩ := List.forall_mem_cons.1 h
    rw [cutAfter, ih hxs, hx]
    by_cases hnil : xs = [] <;> simp [hnil]

/-- Cutting loses nothing. -/
theorem flatten_cutAfter (separator : α → Bool) (xs : List α) :
    (cutAfter separator xs).flatten = xs := by
  induction xs with
  | nil => rfl
  | cons x xs ih =>
    rw [cutAfter]
    split
    · simp [ih]
    · cases hcut : cutAfter separator xs <;> simp_all

end Cutting

/-- What holds of bytes without line feeds, and of a line in front of bytes of which it holds, holds
of all bytes. -/
theorem line_induction {motive : Bytes → Prop} (last : ∀ bs, lineFeed ∉ bs → motive bs)
    (line : ∀ before rest, lineFeed ∉ before → motive rest → motive (before ++ lineFeed :: rest))
    (bs : Bytes) : motive bs := by
  -- The induction carries the bytes of the line that has begun.
  suffices h : ∀ before, lineFeed ∉ before → motive (before ++ bs) from h [] List.not_mem_nil
  induction bs with
  | nil =>
    intro before hbefore
    rw [List.append_nil]
    exact last before hbefore
  | cons b bs ih =>
    intro before hbefore
    by_cases hb : b = lineFeed
    · rw [hb]
      exact line before bs hbefore (ih [] List.not_mem_nil)
    · rw [List.append_cons]
      refine ih (before ++ [b]) ?_
      rw [List.mem_append, List.mem_singleton, not_or]
      exact ⟨hbefore, Ne.symm hb⟩

/-- The first line ends in its only line feed; where there is no first line there is no line feed.
-/
theorem firstLine?_spec (bs : Bytes) :
    match firstLine? bs with
    | some (line, _) => ∃ before, line = before ++ [lineFeed] ∧ lineFeed ∉ before
    | none => lineFeed ∉ bs := by
  induction bs with
  | nil => simp [firstLine?]
  | cons b bs ih =>
    unfold firstLine?
    by_cases hb : b = lineFeed
    · rw [if_pos hb]
      exact ⟨[], by simp [hb], List.not_mem_nil⟩
    · rw [if_neg hb]
      cases hf : firstLine? bs with
      | none =>
        rw [hf] at ih
        exact List.not_mem_cons_of_ne_of_not_mem (Ne.symm hb) ih
      | some r =>
        rw [hf] at ih
        obtain ⟨before, hline, hnot⟩ := ih
        refine ⟨b :: before, ?_, List.not_mem_cons_of_ne_of_not_mem (Ne.symm hb) hnot⟩
        simp [hline]

/-- The first line ends at the first line feed. -/
theorem firstLine?_append_lineFeed {before : Bytes} (h : lineFeed ∉ before) (rest : Bytes) :
    firstLine? (before ++ lineFeed :: rest) = some (before ++ [lineFeed], rest) := by
  induction before with
  | nil => simp [firstLine?]
  | cons b before ih =>
    rw [List.mem_cons, not_or] at h
    rw [List.cons_append, firstLine?, if_neg (Ne.symm h.1), ih h.2]
    rfl

/-- Where there is no first line, bytes without line feeds go on without one. -/
theorem lineFeed_not_mem_append {gathered buffer : Bytes} (hg : lineFeed ∉ gathered)
    (h : firstLine? buffer = none) : lineFeed ∉ gathered ++ buffer := by
  have hs := firstLine?_spec buffer
  rw [h] at hs
  rw [List.mem_append, not_or]
  exact ⟨hg, hs⟩

/-- Bytes are cut behind each line feed. -/
theorem lines_eq_cutAfter (bs : Bytes) : lines bs = cutAfter (· == lineFeed) bs := by
  induction bs with
  | nil => rfl
  | cons b bs ih =>
    rw [lines, cutAfter, ih]
    by_cases hb : b = lineFeed
    · simp [hb]
    · cases cutAfter (· == lineFeed) bs <;> simp [hb]

theorem forall_ne_of_not_mem {α : Type} [BEq α] [LawfulBEq α] {x : α} {xs : List α}
    (h : x ∉ xs) : ∀ y ∈ xs, (y == x) = false :=
  fun _ hy => beq_eq_false_iff_ne.2 fun heq => h (heq ▸ hy)

/-- The line in front of a line feed comes first. -/
theorem lines_append_lineFeed {line rest : Bytes} (h : lineFeed ∉ line) :
    lines (line ++ lineFeed :: rest) = (line ++ [lineFeed]) :: lines rest := by
  rw [lines_eq_cutAfter, lines_eq_cutAfter]
  exact cutAfter_append_cons (forall_ne_of_not_mem h) (beq_self_eq_true lineFeed)

/-- Without a line feed there is one line, or none. -/
theorem lines_of_not_mem {bs : Bytes} (h : lineFeed ∉ bs) :
    lines bs = if bs = [] then [] else [bs] := by
  rw [lines_eq_cutAfter]
  exact cutAfter_of_forall (forall_ne_of_not_mem h)

/-- What has begun without a line feed is no whole line. -/
theorem wholeLines_append {torn : Bytes} (h : lineFeed ∉ torn) (before : Bytes) :
    wholeLines (before ++ torn) = wholeLines before := by
  have hall : ∀ b ∈ torn.reverse, (b != lineFeed) = true := by
    intro b hb
    rw [bne, forall_ne_of_not_mem h b (List.mem_reverse.1 hb), Bool.not_false]
  rw [wholeLines, List.reverse_append, List.dropWhile_append_of_pos hall, wholeLines]

/-- Bytes without a line feed have no whole line. -/
theorem wholeLines_of_not_mem {bs : Bytes} (h : lineFeed ∉ bs) : wholeLines bs = [] :=
  wholeLines_append h []

/-- The whole lines end with the last line feed. -/
theorem wholeLines_append_lineFeed {torn : Bytes} (h : lineFeed ∉ torn) (before : Bytes) :
    wholeLines (before ++ lineFeed :: torn) = before ++ [lineFeed] := by
  rw [List.append_cons, wholeLines_append h, wholeLines, List.reverse_append,
    List.reverse_singleton, List.singleton_append, List.dropWhile_cons_of_neg (by simp),
    List.reverse_cons, List.reverse_reverse]

/-- A line holds a byte at least. -/
theorem ne_nil_of_mem_lines {bs line : Bytes} (h : line ∈ lines bs) : line ≠ [] := by
  induction bs using line_induction with
  | last bs hbs =>
    rw [lines_of_not_mem hbs] at h
    split at h
    · cases h
    · next hne => exact List.mem_singleton.1 h ▸ hne
  | line before rest hbefore ih =>
    rw [lines_append_lineFeed hbefore] at h
    rcases List.mem_cons.1 h with rfl | hrest
    · simp
    · exact ih hrest

end RecallShell.Text
