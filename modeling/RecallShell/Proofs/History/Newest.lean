import Mathlib.Data.List.Basic
import RecallShell.History

/-!
# The newest entries

Keeping the newest elements after each addition comes to the same as adding everything and keeping
the newest elements at the end. So a history, which drops entries one by one, always holds the
newest of all that was ever added to it, and each addition costs it the oldest entry or none.
-/

namespace RecallShell

variable {α : Type}

/-- A list that is short enough is kept whole. -/
theorem newest_of_length_le {count : Nat} {xs : List α} (h : xs.length ≤ count) :
    newest count xs = xs := by
  rw [newest, Nat.sub_eq_zero_of_le h, List.drop_zero]

/-- As many elements are kept as are wanted and there. -/
@[simp] theorem length_newest (count : Nat) (xs : List α) :
    (newest count xs).length = min count xs.length := by
  rw [newest, List.length_drop]
  omega

/-- Elements dropped early would have been dropped later anyway. -/
theorem newest_newest_append (count : Nat) (xs ys : List α) :
    newest count (newest count xs ++ ys) = newest count (xs ++ ys) := by
  by_cases h : xs.length ≤ count
  · rw [newest_of_length_le h]
  · have hlen : (newest count xs).length = count := by
      rw [length_newest]
      omega
    have hdrop : (newest count xs ++ ys).length - count = ys.length := by
      rw [List.length_append, hlen]
      omega
    have hsplit : (xs ++ ys).length - count = xs.length - count + ys.length := by
      rw [List.length_append]
      omega
    calc newest count (newest count xs ++ ys)
        = (xs.drop (xs.length - count) ++ ys).drop ys.length := by rw [newest, hdrop, newest]
      _ = ((xs ++ ys).drop (xs.length - count)).drop ys.length := by
        rw [List.drop_append_of_le_length (Nat.sub_le _ _)]
      _ = newest count (xs ++ ys) := by rw [List.drop_drop, newest, hsplit]

/-- What has been kept once is kept. -/
@[simp] theorem newest_newest (count : Nat) (xs : List α) :
    newest count (newest count xs) = newest count xs :=
  newest_of_length_le (by rw [length_newest]; omega)

/-- The last element is kept where any is. -/
theorem getLast?_newest {count : Nat} (hc : 0 < count) (xs : List α) :
    (newest count xs).getLast? = xs.getLast? := by
  rcases List.eq_nil_or_concat xs with rfl | ⟨before, last, rfl⟩
  · simp [newest]
  · have h : (before ++ [last]).length - count ≤ before.length := by
      simp only [List.length_append, List.length_singleton]
      omega
    rw [newest, List.concat_eq_append, List.drop_append_of_le_length h]
    simp

/-- Every kept element was there before. -/
theorem mem_of_mem_newest {count : Nat} {xs : List α} {x : α} (h : x ∈ newest count xs) :
    x ∈ xs :=
  List.mem_of_mem_drop h

namespace History

/-- Histories with the same room and the same entries are the same. -/
theorem eq_of_entries {h h' : History} (hcapacity : h.capacity = h'.capacity)
    (hentries : h.entries = h'.entries) : h = h' := by
  cases h
  cases h'
  simp_all

/-- A history holds the newest of its own entries. -/
@[simp] theorem newest_entries (h : History) : newest h.capacity h.entries = h.entries :=
  newest_of_length_le h.length_le

@[simp] theorem capacity_appendAll (h : History) (entries : List String) :
    (h.appendAll entries).capacity = h.capacity := by
  induction entries generalizing h with
  | nil => rfl
  | cons entry entries ih => exact (ih (h.append entry)).trans (h.capacity_append entry)

/-- Adding entries one after the other keeps the newest entries that there is room for. -/
theorem entries_appendAll (h : History) (entries : List String) :
    (h.appendAll entries).entries = newest h.capacity (h.entries ++ entries) := by
  induction entries generalizing h with
  | nil => exact (newest_entries h).symm.trans (by rw [List.append_nil])
  | cons entry entries ih =>
    have h' := ih (h.append entry)
    rw [capacity_append, entries_append, newest_newest_append, List.append_assoc] at h'
    exact h'

/-- What one addition does to the entries of a history that has room for so many. -/
inductive Shifts (bound : Nat) (entry : String) : List String → List String → Prop
  /-- Where there is room, nothing is dropped. -/
  | added {entries : List String} (h : entries.length < bound) :
      Shifts bound entry entries (entries ++ [entry])
  /-- Where there is none, the oldest entry is dropped and no other. -/
  | shifted {oldest : String} {kept : List String} (h : (oldest :: kept).length = bound) :
      Shifts bound entry (oldest :: kept) (kept ++ [entry])

/-- Adding an entry drops the oldest one exactly where there is no room for both. -/
theorem shifts_append (h : History) (entry : String) :
    Shifts h.capacity entry h.entries (h.append entry).entries := by
  obtain ⟨capacity, entries, hpos, hle⟩ := h
  by_cases hfull : entries.length = capacity
  · cases entries with
    | nil => exact absurd hfull.symm (Nat.ne_of_gt hpos)
    | cons oldest kept =>
      have happend : (append ⟨capacity, oldest :: kept, hpos, hle⟩ entry).entries =
          kept ++ [entry] := by simp [append, isFull, hfull]
      rw [happend]
      exact .shifted hfull
  · have happend : (append ⟨capacity, entries, hpos, hle⟩ entry).entries = entries ++ [entry] := by
      simp [append, isFull, hfull]
    rw [happend]
    exact .added (Nat.lt_of_le_of_ne hle hfull)

/-- Entries that are added behind others are added after them. -/
theorem appendAll_append (h : History) (xs ys : List String) :
    h.appendAll (xs ++ ys) = (h.appendAll xs).appendAll ys :=
  List.foldl_append

/-- However many entries are added to a history made with any capacity, and whatever has been added
before, it holds the newest of its former entries and of those added, as many as there is room for.
On the way it never holds more than that, and each addition drops the oldest entry or none. -/
theorem appendAll_keeps_newest (capacity : Nat) (before added : List String) :
    let bound := max capacity 1
    let history := (withCapacity capacity).appendAll before
    (history.appendAll added).entries = newest bound (history.entries ++ added) ∧
      ∀ count, (history.appendAll (added.take count)).size ≤ bound ∧
        ∀ entry, added[count]? = some entry →
          Shifts bound entry (history.appendAll (added.take count)).entries
            (history.appendAll (added.take (count + 1))).entries := by
  intro bound history
  have hbound : ∀ more, (history.appendAll more).capacity = bound := by
    intro more
    rw [capacity_appendAll, capacity_appendAll, withCapacity]
  refine ⟨?_, fun count => ⟨?_, fun entry hentry => ?_⟩⟩
  · rw [entries_appendAll, ← hbound [], appendAll, List.foldl_nil]
  · rw [← hbound (added.take count)]
    exact length_le _
  · have hlast : added.take (count + 1) = added.take count ++ [entry] := by
      rw [List.take_add_one, hentry, Option.toList_some]
    rw [hlast, appendAll_append, ← hbound (added.take count)]
    exact shifts_append _ entry

/-- A history made without room has room for one entry, and each addition drops the one before. One
with room for two takes an entry and then drops the oldest. -/
theorem appendAll_keeps_newest_of_full :
    ((withCapacity 0).appendAll ["ls", "pwd"]).entries = ["pwd"] ∧
      (let history := (withCapacity 2).appendAll ["a"]
      (history.appendAll ["b", "a"]).entries = ["b", "a"] ∧
        (∀ count, (history.appendAll (["b", "a"].take count)).size ≤ 2) ∧
        Shifts 2 "b" ["a"] ["a", "b"] ∧ Shifts 2 "a" ["a", "b"] ["b", "a"]) := by
  obtain ⟨hone, -⟩ := appendAll_keeps_newest 0 [] ["ls", "pwd"]
  obtain ⟨htwo, hsteps⟩ := appendAll_keeps_newest 2 ["a"] ["b", "a"]
  exact ⟨hone, htwo, fun count => (hsteps count).1, (hsteps 0).2 "b" rfl, (hsteps 1).2 "a" rfl⟩

end History

end RecallShell
