import Mathlib.Data.List.Sort
import Mathlib.Data.List.TakeWhile
import RecallShell.Proofs.Text.Words

/-!
# Runs

A run of a list is a stretch without separators that cannot be made longer: on either side of it
there is a separator or nothing more. Runs are told by their positions here, without a word of how a
list is cut. Cutting a list into words brings its runs, all of them and each one once, in the order
in which they begin.
-/

namespace RecallShell

namespace Text

variable {α : Type} {separator : α → Bool} {xs word rest : List α} {words : List (List α)}

/-- At a position of a list there is an element that is no separator. -/
def Holds (separator : α → Bool) (xs : List α) (i : Nat) : Prop :=
  ∃ x, xs[i]? = some x ∧ separator x = false

/-- From one position up to, but not including, another a list has a maximal run of elements that
are no separators. -/
structure IsRun (separator : α → Bool) (xs : List α) (start stop : Nat) : Prop where
  /-- The run is not empty. -/
  nonempty : start < stop
  /-- No element of it is a separator. -/
  inside : ∀ i, start ≤ i → i < stop → Holds separator xs i
  /-- It cannot begin earlier. -/
  left : ∀ i, i + 1 = start → ¬Holds separator xs i
  /-- It cannot end later. -/
  right : ¬Holds separator xs stop

/-- What stands in a list from one position up to, but not including, another. -/
def stretch (xs : List α) (span : Nat × Nat) : List α := (xs.take span.2).drop span.1

/-- Some words are all the runs of a list, in the order in which they begin. -/
def AreRuns (separator : α → Bool) (xs : List α) (words : List (List α)) : Prop :=
  ∃ spans : List (Nat × Nat), spans.Pairwise (fun r s => r.1 < s.1) ∧
    (∀ start stop, (start, stop) ∈ spans ↔ IsRun separator xs start stop) ∧
    words = spans.map (stretch xs)

/-- A list has its runs in one order only. -/
theorem AreRuns.unique {words' : List (List α)} (h : AreRuns separator xs words)
    (h' : AreRuns separator xs words') : words = words' := by
  obtain ⟨spans, hsorted, hruns, rfl⟩ := h
  obtain ⟨spans', hsorted', hruns', rfl⟩ := h'
  have hnodup : ∀ {spans : List (Nat × Nat)}, spans.Pairwise (fun r s => r.1 < s.1) →
      spans.Nodup :=
    fun hspans => hspans.imp fun hlt heq => Nat.ne_of_lt hlt (congrArg Prod.fst heq)
  have hperm : spans.Perm spans' :=
    (List.perm_ext_iff_of_nodup (hnodup hsorted) (hnodup hsorted')).2 fun span =>
      (hruns span.1 span.2).trans (hruns' span.1 span.2).symm
  rw [hperm.eq_of_pairwise (fun r s _ _ hlt hgt => by omega) hsorted hsorted']

/-- Past its end a list holds nothing. -/
theorem not_holds_nil (i : Nat) : ¬Holds separator ([] : List α) i := by
  simp [Holds]

@[simp] theorem holds_cons_zero {x : α} : Holds separator (x :: xs) 0 ↔ separator x = false := by
  simp [Holds]

@[simp] theorem holds_cons_succ {x : α} {i : Nat} :
    Holds separator (x :: xs) (i + 1) ↔ Holds separator xs i := by
  simp [Holds]

/-- Behind some elements a list holds what it holds without them. -/
theorem holds_append_add (xs ys : List α) (i : Nat) :
    Holds separator (xs ++ ys) (xs.length + i) ↔ Holds separator ys i := by
  simp [Holds, List.getElem?_append_right]

/-- Among elements that are no separators there is none at any position. -/
theorem holds_append_of_lt (h : ∀ x ∈ word, separator x = false) {i : Nat}
    (hi : i < word.length) : Holds separator (word ++ rest) i :=
  ⟨word[i], by rw [List.getElem?_append_left hi, List.getElem?_eq_getElem hi],
    h _ (List.getElem_mem hi)⟩

/-- Behind some elements a list has its runs, as many positions later, but for one at its beginning
that those elements make longer. -/
theorem isRun_append_add (front : List α) {i j : Nat}
    (hfront : i = 0 → ∀ k, k + 1 = front.length → ¬Holds separator (front ++ xs) k) :
    IsRun separator (front ++ xs) (front.length + i) (front.length + j) ↔
      IsRun separator xs i j := by
  constructor
  · rintro ⟨hlt, hinside, hleft, hright⟩
    refine ⟨by omega, ?_, ?_, (holds_append_add _ _ _).not.1 hright⟩
    · intro k hk hk'
      exact (holds_append_add _ _ _).1 (hinside (front.length + k) (by omega) (by omega))
    · rintro k rfl
      exact (holds_append_add _ _ _).not.1 (hleft (front.length + k) (by omega))
  · rintro ⟨hlt, hinside, hleft, hright⟩
    refine ⟨by omega, ?_, ?_, (holds_append_add _ _ _).not.2 hright⟩
    · intro k hk hk'
      obtain ⟨k, rfl⟩ := Nat.exists_eq_add_of_le (by omega : front.length ≤ k)
      exact (holds_append_add _ _ _).2 (hinside k (by omega) (by omega))
    · intro k hk
      by_cases hi : i = 0
      · exact hfront hi k (by omega)
      · obtain ⟨k, rfl⟩ := Nat.exists_eq_add_of_le (by omega : front.length ≤ k)
        exact (holds_append_add _ _ _).not.2 (hleft k (by omega))

/-- Behind a separator a list has the runs that it has without it, one position later. -/
theorem isRun_cons_iff {x : α} (hx : separator x = true) {start stop : Nat} :
    IsRun separator (x :: xs) start stop ↔
      ∃ i j, start = [x].length + i ∧ stop = [x].length + j ∧ IsRun separator xs i j := by
  have hzero : ¬Holds separator (x :: xs) 0 := by simp [hx]
  have hshift : ∀ i j, IsRun separator (x :: xs) ([x].length + i) ([x].length + j) ↔
      IsRun separator xs i j := by
    intro i j
    refine isRun_append_add [x] fun _ k hk => ?_
    obtain rfl : k = 0 := by simpa using hk
    exact hzero
  constructor
  · intro h
    have hstart : start ≠ 0 := by
      rintro rfl
      exact hzero (h.inside 0 (Nat.le_refl 0) h.nonempty)
    have hlt := h.nonempty
    obtain ⟨i, rfl⟩ := Nat.exists_eq_add_of_le (Nat.one_le_iff_ne_zero.2 hstart)
    obtain ⟨j, rfl⟩ := Nat.exists_eq_add_of_le (by omega : 1 ≤ stop)
    exact ⟨i, j, rfl, rfl, (hshift i j).1 h⟩
  · rintro ⟨i, j, rfl, rfl, hrun⟩
    exact (hshift i j).2 hrun

/-- Where a list begins with a word and a separator or nothing follows, that word is its first run,
and the others are those of the rest, further on. -/
theorem isRun_append_iff (hne : word ≠ []) (hword : ∀ x ∈ word, separator x = false)
    (hrest : ¬Holds separator rest 0) {start stop : Nat} :
    IsRun separator (word ++ rest) start stop ↔
      (start = 0 ∧ stop = word.length) ∨
      ∃ i j, start = word.length + i ∧ stop = word.length + j ∧ IsRun separator rest i j := by
  have hpos := List.length_pos_iff.2 hne
  have hend : ¬Holds separator (word ++ rest) word.length := by
    simpa using (holds_append_add word rest 0).not.2 hrest
  constructor
  · intro h
    have hlt := h.nonempty
    by_cases hstart : start < word.length
    · -- The run begins in the word, so it begins with it and ends with it.
      have hzero : start = 0 := by
        by_contra hne
        exact h.left (start - 1) (by omega) (holds_append_of_lt hword (by omega))
      have hge : word.length ≤ stop := by
        by_contra hlt
        exact h.right (holds_append_of_lt hword (by omega))
      have hle : stop ≤ word.length := by
        by_contra hgt
        exact hend (h.inside word.length (by omega) (by omega))
      exact Or.inl ⟨hzero, by omega⟩
    · -- It begins behind the word, and not right behind it.
      obtain ⟨i, rfl⟩ := Nat.exists_eq_add_of_le (Nat.not_lt.1 hstart)
      obtain ⟨j, rfl⟩ := Nat.exists_eq_add_of_le (by omega : word.length ≤ stop)
      have hi : i ≠ 0 := by
        rintro rfl
        exact hend (h.inside word.length (by omega) (by omega))
      exact Or.inr ⟨i, j, rfl, rfl, (isRun_append_add word fun hzero => absurd hzero hi).1 h⟩
  · rintro (⟨rfl, rfl⟩ | ⟨i, j, rfl, rfl, hrun⟩)
    · exact ⟨hpos, fun k _ hk => holds_append_of_lt hword hk, by simp, hend⟩
    · have hi : i ≠ 0 := by
        rintro rfl
        exact hrest (hrun.inside 0 (Nat.le_refl 0) hrun.nonempty)
      exact (isRun_append_add word fun hzero => absurd hzero hi).2 hrun

/-- What stands in a list stands in it as many positions later behind some elements. -/
theorem stretch_append (front xs : List α) (span : Nat × Nat) :
    stretch (front ++ xs) (front.length + span.1, front.length + span.2) = stretch xs span := by
  simp [stretch, List.take_append, List.drop_append]

/-- An empty list has no runs. -/
theorem areRuns_nil : AreRuns separator ([] : List α) [] := by
  refine ⟨[], .nil, fun start stop => ?_, rfl⟩
  constructor
  · nofun
  · intro h
    exact absurd (h.inside start (Nat.le_refl start) h.nonempty) (not_holds_nil start)

/-- Spans further on are the spans that they were, in the same order. -/
theorem pairwise_map_add {spans : List (Nat × Nat)} (h : spans.Pairwise fun r s => r.1 < s.1)
    (n : Nat) : (spans.map fun span => (n + span.1, n + span.2)).Pairwise fun r s => r.1 < s.1 :=
  List.pairwise_map.2 (h.imp fun hlt => Nat.add_lt_add_left hlt n)

/-- A span is among those further on exactly when it is one of them, further on. -/
theorem mem_map_add_iff {spans : List (Nat × Nat)}
    (h : ∀ start stop, (start, stop) ∈ spans ↔ IsRun separator xs start stop) {n start stop : Nat} :
    (start, stop) ∈ spans.map (fun span => (n + span.1, n + span.2)) ↔
      ∃ i j, start = n + i ∧ stop = n + j ∧ IsRun separator xs i j := by
  rw [List.mem_map]
  constructor
  · rintro ⟨⟨i, j⟩, hmem, heq⟩
    obtain ⟨rfl, rfl⟩ := Prod.mk.inj heq
    exact ⟨i, j, rfl, rfl, (h i j).1 hmem⟩
  · rintro ⟨i, j, rfl, rfl, hrun⟩
    exact ⟨(i, j), (h i j).2 hrun, rfl⟩

/-- A separator in front changes no run. -/
theorem AreRuns.cons {x : α} (h : AreRuns separator xs words) (hx : separator x = true) :
    AreRuns separator (x :: xs) words := by
  obtain ⟨spans, hsorted, hruns, rfl⟩ := h
  refine ⟨_, pairwise_map_add hsorted [x].length, fun start stop => ?_, ?_⟩
  · rw [isRun_cons_iff hx, mem_map_add_iff hruns]
  · rw [List.map_map]
    exact List.map_congr_left fun span _ => (stretch_append [x] xs span).symm

/-- A word in front, with a separator or nothing behind it, is one run more. -/
theorem AreRuns.append (h : AreRuns separator rest words) (hne : word ≠ [])
    (hword : ∀ x ∈ word, separator x = false) (hrest : ¬Holds separator rest 0) :
    AreRuns separator (word ++ rest) (word :: words) := by
  obtain ⟨spans, hsorted, hruns, rfl⟩ := h
  refine ⟨(0, word.length) :: spans.map fun span => (word.length + span.1, word.length + span.2),
    List.pairwise_cons.2 ⟨fun span hspan => ?_, pairwise_map_add hsorted word.length⟩,
    fun start stop => ?_, ?_⟩
  · obtain ⟨_, -, rfl⟩ := List.mem_map.1 hspan
    exact Nat.add_pos_left (List.length_pos_iff.2 hne) _
  · rw [isRun_append_iff hne hword hrest, List.mem_cons, mem_map_add_iff hruns, Prod.mk.injEq]
  · rw [List.map_cons, List.map_map]
    refine congrArg₂ List.cons ?_ (List.map_congr_left fun span _ => ?_)
    · simp [stretch]
    · exact (stretch_append word rest span).symm

/-- Words that do not touch each other come first one by one. -/
theorem wordsBy_append (hne : word ≠ []) (hword : ∀ x ∈ word, separator x = false)
    (hrest : ¬Holds separator rest 0) :
    wordsBy separator (word ++ rest) = word :: wordsBy separator rest := by
  have hsingle := wordsBy_eq_singleton hne hword
  cases rest with
  | nil => rw [List.append_nil, hsingle, wordsBy_nil]
  | cons x rest =>
    have hx : separator x = true := by simpa using hrest
    rw [wordsBy_append_cons hx, hsingle, wordsBy_cons hx, List.singleton_append]

/-- The words of a list are its runs. -/
theorem areRuns_wordsBy (separator : α → Bool) (xs : List α) :
    AreRuns separator xs (wordsBy separator xs) := by
  -- Each turn takes a separator off the front, or a word as long as it goes.
  induction hn : xs.length using Nat.strongRecOn generalizing xs with
  | ind n ih =>
    cases xs with
    | nil => exact areRuns_nil
    | cons x xs =>
      cases hx : separator x with
      | true =>
        rw [wordsBy_cons hx]
        exact (ih _ (by simp [← hn]) xs rfl).cons hx
      | false =>
        let word := (x :: xs).takeWhile fun y => !separator y
        let rest := (x :: xs).dropWhile fun y => !separator y
        have hsplit : word ++ rest = x :: xs := List.takeWhile_append_dropWhile
        have hne : word ≠ [] := by simp [word, hx]
        have hword : ∀ y ∈ word, separator y = false := fun y hy => by
          simpa using List.mem_takeWhile_imp hy
        have hrest : ¬Holds separator rest 0 := by
          rintro ⟨y, hy, hfalse⟩
          have hhead : rest.head? = some y := by rw [List.head?_eq_getElem?, hy]
          have hnot := List.head?_dropWhile_not (fun y => !separator y) (x :: xs)
          rw [show (x :: xs).dropWhile (fun y => !separator y) = rest from rfl, hhead] at hnot
          simp [hfalse] at hnot
        have hshorter : rest.length < n := by
          have hlength := congrArg List.length hsplit
          have hpos := List.length_pos_iff.2 hne
          rw [List.length_append] at hlength
          omega
        rw [← hsplit, wordsBy_append hne hword hrest]
        exact (ih _ hshorter rest rfl).append hne hword hrest

/-- Some words are the runs of a list exactly when they are what it is cut into. -/
theorem areRuns_iff : AreRuns separator xs words ↔ words = wordsBy separator xs := by
  constructor
  · intro h
    exact h.unique (areRuns_wordsBy separator xs)
  · rintro rfl
    exact areRuns_wordsBy separator xs

end Text

end RecallShell
