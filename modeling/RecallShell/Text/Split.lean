/-!
# Cutting lists apart

A list is cut at separators chosen by a predicate. Its parts are what lies before, between and
after the separators; its words are the parts that hold something, which are the maximal runs of
other elements. Both come apart at a separator, and everything else about them follows from that.
-/

namespace RecallShell.Text

variable {α : Type}

/-- An element of two lists in a row stands in the first or in the second. -/
theorem append_eq_append_cons_cases {xs ys before after : List α} {x : α}
    (h : xs ++ ys = before ++ x :: after) :
    (∃ rest, xs = before ++ x :: rest ∧ after = rest ++ ys) ∨
      ∃ rest, before = xs ++ rest ∧ ys = rest ++ x :: after := by
  rcases List.append_eq_append_iff.1 h with ⟨rest, hbefore, hys⟩ | ⟨rest, hxs, hcons⟩
  · exact Or.inr ⟨rest, hbefore, hys⟩
  · cases rest with
    | nil => exact Or.inr ⟨[], by simpa using hxs.symm, hcons.symm⟩
    | cons y rest =>
      obtain ⟨rfl, hafter⟩ := List.cons.inj hcons
      exact Or.inl ⟨rest, hxs, hafter⟩

/-- What lies before, between and after the separators. -/
def splitBy (separator : α → Bool) : List α → List (List α)
  | [] => [[]]
  | x :: xs =>
    if separator x then [] :: splitBy separator xs
    else (splitBy separator xs).modifyHead (x :: ·)

/-- The maximal runs of elements that are no separators, in order. -/
def wordsBy (separator : α → Bool) (xs : List α) : List (List α) :=
  (splitBy separator xs).filter fun part => !part.isEmpty

/-- A list has at least one part. -/
theorem splitBy_ne_nil (separator : α → Bool) (xs : List α) : splitBy separator xs ≠ [] := by
  induction xs with
  | nil => simp [splitBy]
  | cons x xs ih =>
    unfold splitBy
    split
    · simp
    · simpa using ih

/-- The parts of a list come apart at a separator. -/
theorem splitBy_append_cons {separator : α → Bool} {s : α} (hs : separator s = true)
    (xs ys : List α) :
    splitBy separator (xs ++ s :: ys) = splitBy separator xs ++ splitBy separator ys := by
  induction xs with
  | nil => simp [splitBy, hs]
  | cons x xs ih =>
    obtain ⟨part, parts, hp⟩ := List.exists_cons_of_ne_nil (splitBy_ne_nil separator xs)
    by_cases hx : separator x = true
    · simp [splitBy, hx, ih]
    · simp [splitBy, hx, ih, hp]

/-- A list without separators is a single part. -/
theorem splitBy_eq_singleton {separator : α → Bool} {xs : List α}
    (h : ∀ x ∈ xs, separator x = false) : splitBy separator xs = [xs] := by
  induction xs with
  | nil => rfl
  | cons x xs ih =>
    have hx := h x List.mem_cons_self
    have hxs := ih fun y hy => h y (List.mem_cons_of_mem x hy)
    simp [splitBy, hx, hxs]

/-- No part holds a separator. -/
theorem eq_false_of_mem_splitBy {separator : α → Bool} {xs part : List α}
    (h : part ∈ splitBy separator xs) : ∀ x ∈ part, separator x = false := by
  induction xs generalizing part with
  | nil => simp_all [splitBy]
  | cons x xs ih =>
    obtain ⟨first, parts, hp⟩ := List.exists_cons_of_ne_nil (splitBy_ne_nil separator xs)
    by_cases hx : separator x = true
    · rw [show splitBy separator (x :: xs) = [] :: splitBy separator xs by simp [splitBy, hx]] at h
      rcases List.mem_cons.1 h with rfl | h
      · simp
      · exact ih h
    · rw [show splitBy separator (x :: xs) = (x :: first) :: parts by simp [splitBy, hx, hp]] at h
      rcases List.mem_cons.1 h with rfl | h
      · intro y hy
        rcases List.mem_cons.1 hy with rfl | hy
        · simpa using hx
        · exact ih (hp ▸ List.mem_cons_self) y hy
      · exact ih (hp ▸ List.mem_cons_of_mem first h)

@[simp] theorem wordsBy_nil (separator : α → Bool) : wordsBy separator [] = [] := rfl

/-- The words of a list come apart at a separator. -/
theorem wordsBy_append_cons {separator : α → Bool} {s : α} (hs : separator s = true)
    (xs ys : List α) :
    wordsBy separator (xs ++ s :: ys) = wordsBy separator xs ++ wordsBy separator ys := by
  simp [wordsBy, splitBy_append_cons hs]

/-- A separator in front adds no word. -/
theorem wordsBy_cons {separator : α → Bool} {s : α} (hs : separator s = true) (xs : List α) :
    wordsBy separator (s :: xs) = wordsBy separator xs :=
  wordsBy_append_cons hs [] xs

/-- A list without separators that holds something is one word. -/
theorem wordsBy_eq_singleton {separator : α → Bool} {xs : List α} (hne : xs ≠ [])
    (h : ∀ x ∈ xs, separator x = false) : wordsBy separator xs = [xs] := by
  simp [wordsBy, splitBy_eq_singleton h, hne]

/-- A word holds something, and no separator. -/
theorem mem_wordsBy {separator : α → Bool} {xs word : List α} (h : word ∈ wordsBy separator xs) :
    word ≠ [] ∧ ∀ x ∈ word, separator x = false := by
  obtain ⟨hw, hne⟩ := List.mem_filter.1 h
  exact ⟨by simpa using hne, eq_false_of_mem_splitBy hw⟩

end RecallShell.Text
